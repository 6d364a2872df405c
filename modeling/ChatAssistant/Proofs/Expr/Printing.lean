import ChatAssistant.Proofs.Expr.Screening
import Mathlib.Data.List.Chain

/-!
# Written expressions read back

An expression is written with brackets only where it would be grouped otherwise.  What it is written
as reads back as the same expression, blanks between its tokens or not, as long as it is within the
bounds on length and nesting.

* `Decimal.Literal` — numbers as they are written;
* `Place.brackets` — where an operand needs brackets;
* `lexemes`, `print` — an expression as tokens and as text, and `Spaced`, with blanks between them;
* `depth` — the most levels around a place of what is written;
* `parse_printed` — what is written reads back.

In between stands the grammar: each place for an operand is a nonterminal, and what is written there
is one of its derivations (`derivable`).
-/

namespace ChatAssistant

/-! ## Numbers -/

/-- An unsigned decimal literal as it is written, with a digit on one side of its point at least. -/
structure Decimal.Literal where
  whole : Text
  /-- What stands behind the point, if there is one. -/
  fraction : Option Text
  isDigit_of_mem : ∀ c ∈ whole ++ fraction.getD [], Text.isDigit c = true
  ne_nil : whole ++ fraction.getD [] ≠ []

namespace Decimal.Literal

def text (l : Literal) : Text := l.whole ++ l.fraction.elim [] ('.' :: ·)

def value (l : Literal) : Decimal := ofParts l.whole (l.fraction.getD [])

theorem ofRun?_text (l : Literal) : ofRun? l.text = some l.value := by
  obtain ⟨whole, fraction, hdigits, hne⟩ := l
  have hwhole : ∀ c ∈ whole, Text.isDigit c = true := by
    intro c hc
    exact hdigits c (List.mem_append_left _ hc)
  cases fraction with
  | none =>
      have htake : whole.takeWhile Text.isDigit = whole := List.takeWhile_eq_self_iff.2 hwhole
      have hdrop : whole.dropWhile Text.isDigit = [] := List.dropWhile_eq_nil_iff.2 hwhole
      have hne' : whole ≠ [] := by simpa using hne
      simp only [ofRun?, text, value, Option.elim, Option.getD, List.append_nil, htake, hdrop]
      simp [hne']
  | some fraction =>
      have hpoint : ¬ Text.isDigit '.' = true := by decide
      have htake : (whole ++ '.' :: fraction).takeWhile Text.isDigit = whole := by
        rw [List.takeWhile_append_of_pos hwhole, List.takeWhile_cons_of_neg hpoint,
          List.append_nil]
      have hdrop : (whole ++ '.' :: fraction).dropWhile Text.isDigit = '.' :: fraction := by
        rw [List.dropWhile_append_of_pos hwhole, List.dropWhile_cons_of_neg hpoint]
      have hfraction : fraction.all Text.isDigit = true := by
        rw [List.all_eq_true]
        intro c hc
        exact hdigits c (List.mem_append_right _ hc)
      have hne' : ¬ (whole = [] ∧ fraction = []) := by simpa using hne
      simp only [ofRun?, text, value, Option.elim, Option.getD, htake, hdrop, hfraction]
      simpa using hne'

theorem isLiteralChar_of_mem (l : Literal) {c : Char} (hc : c ∈ l.text) :
    isLiteralChar c = true := by
  have hdigits {d : Char} (hd : d ∈ l.whole ++ l.fraction.getD []) : isLiteralChar d = true := by
    simp [isLiteralChar, l.isDigit_of_mem d hd]
  unfold text at hc
  cases hfraction : l.fraction with
  | none =>
      rw [hfraction] at hc hdigits
      exact hdigits hc
  | some fraction =>
      rw [hfraction] at hc hdigits
      simp only [Option.elim, List.mem_append, List.mem_cons] at hc
      rcases hc with hc | rfl | hc
      · exact hdigits (List.mem_append_left _ hc)
      · decide
      · exact hdigits (List.mem_append_right _ hc)

theorem text_ne_nil (l : Literal) : l.text ≠ [] := by
  obtain ⟨whole, fraction, -, hne⟩ := l
  cases fraction with
  | none => simpa [text] using hne
  | some fraction => simp [text]

theorem exists_digit (l : Literal) : ∃ c ∈ l.text, Text.isDigit c = true := by
  obtain ⟨whole, fraction, hdigits, hne⟩ := l
  obtain ⟨c, hc⟩ := List.exists_mem_of_ne_nil _ hne
  refine ⟨c, ?_, hdigits c hc⟩
  cases fraction with
  | none => simpa [text] using hc
  | some fraction =>
      rcases List.mem_append.1 hc with hc | hc
      · exact List.mem_append_left _ hc
      · exact List.mem_append_right _ (List.mem_cons_of_mem _ hc)

end Decimal.Literal

namespace Expr

open Text (isBlank isBlankText)
open Decimal (isLiteralChar Literal)

variable {α : Type} {s rest : Text}

/-! ## Lexemes -/

/-- A token as it is written. -/
inductive Lexeme where
  | number (literal : Literal)
  | plus
  | minus
  | star
  | slash
  | caret
  | lparen
  | rparen

namespace Lexeme

def text : Lexeme → Text
  | number literal => literal.text
  | plus => ['+']
  | minus => ['-']
  | star => ['*']
  | slash => ['/']
  | caret => ['^']
  | lparen => ['(']
  | rparen => [')']

def token : Lexeme → Token
  | number literal => .number literal.value
  | plus => .plus
  | minus => .minus
  | star => .star
  | slash => .slash
  | caret => .caret
  | lparen => .lparen
  | rparen => .rparen

def ofOp : BinaryOp → Lexeme
  | .add => plus
  | .sub => minus
  | .mul => star
  | .div => slash
  | .pow => caret

def isNumber : Lexeme → Bool
  | number _ => true
  | _ => false

end Lexeme

/-- The text is these lexemes in order, with blanks or nothing before, between and behind them. -/
inductive Spaced : List Lexeme → Text → Prop where
  | done {gap : Text} (hgap : isBlankText gap = true) : Spaced [] gap
  | next {gap s : Text} {ls : List Lexeme} (hgap : isBlankText gap = true) (l : Lexeme)
      (h : Spaced ls s) : Spaced (l :: ls) (gap ++ (l.text ++ s))

/-! ## Writing -/

/-- A sum or a difference. -/
def isSum : Expr α → Bool
  | binary .add _ _ | binary .sub _ _ => true
  | _ => false

/-- A product or a quotient. -/
def isProduct : Expr α → Bool
  | binary .mul _ _ | binary .div _ _ => true
  | _ => false

/-- The places for an operand. -/
inductive Place where
  /-- In front of a plus or minus. -/
  | sum
  /-- Behind a plus or minus, and in front of the sign of a product or quotient. -/
  | product
  /-- Behind the sign of a product or quotient, behind a sign of its own, and in an exponent. -/
  | signed
  /-- In front of a power sign. -/
  | base

/-- The operand needs brackets in this place. -/
def Place.brackets : Place → Expr α → Bool
  | sum, _ => false
  | product, e => e.isSum
  | signed, e => e.isSum || e.isProduct
  | base, number _ => false
  | base, _ => true

/-- The place of an operator's left operand. -/
def Place.left : BinaryOp → Place
  | .add | .sub => sum
  | .mul | .div => product
  | .pow => base

/-- The place of an operator's right operand. -/
def Place.right : BinaryOp → Place
  | .add | .sub => product
  | .mul | .div | .pow => signed

/-- What is written, in brackets or not. -/
def enclose (inBrackets : Bool) (ls : List Lexeme) : List Lexeme :=
  if inBrackets then .lparen :: (ls ++ [.rparen]) else ls

/-- The tokens of an expression as they are written. -/
def lexemes : Expr Literal → List Lexeme
  | number l => [.number l]
  | neg e => .minus :: enclose (Place.signed.brackets e) e.lexemes
  | binary op l r =>
    enclose ((Place.left op).brackets l) l.lexemes ++
      .ofOp op :: enclose ((Place.right op).brackets r) r.lexemes

/-- An expression as text, without blanks. -/
def print (e : Expr Literal) : Text := e.lexemes.flatMap Lexeme.text

/-- The most brackets, signs and exponents around a place of what is written. -/
def depth : Expr α → Nat
  | number _ => 0
  | neg e => e.depth + (Place.signed.brackets e).toNat + 1
  | binary op l r =>
    max (l.depth + ((Place.left op).brackets l).toNat)
      (r.depth + ((Place.right op).brackets r).toNat + if op = .pow then 1 else 0)

/-- Without any blanks the text of an expression is one of its spaced forms. -/
theorem spaced_flatMap (ls : List Lexeme) : Spaced ls (ls.flatMap Lexeme.text) := by
  induction ls with
  | nil => exact .done rfl
  | cons l ls ih =>
      have hnext : Spaced (l :: ls) ([] ++ (l.text ++ ls.flatMap Lexeme.text)) := .next rfl l ih
      simpa using hnext

/-! ## Longer chains -/

namespace Grammar

/-- The tail with one more operand at its end. -/
def ProductTail.snoc : ProductTail → Factor → Signed → ProductTail
  | .nil, factor, operand => .cons factor operand .nil
  | .cons f d tail, factor, operand => .cons f d (tail.snoc factor operand)

def SumTail.snoc : SumTail → Sign → Product → SumTail
  | .nil, sign, operand => .cons sign operand .nil
  | .cons s d tail, sign, operand => .cons s d (tail.snoc sign operand)

theorem ProductTail.tokens_snoc (tail : ProductTail) (factor : Factor) (operand : Signed) :
    (tail.snoc factor operand).tokens = tail.tokens ++ factor.token :: operand.tokens := by
  match tail with
  | .nil => simp [snoc, tokens]
  | .cons f d tail => simp [snoc, tokens, tail.tokens_snoc factor operand]

theorem ProductTail.tree_snoc (tail : ProductTail) (factor : Factor) (operand : Signed)
    (lhs : Expr Decimal) :
    (tail.snoc factor operand).tree lhs = .binary factor.op (tail.tree lhs) operand.tree := by
  match tail with
  | .nil => rfl
  | .cons f d tail => exact tail.tree_snoc factor operand _

theorem ProductTail.nesting_snoc (tail : ProductTail) (factor : Factor) (operand : Signed) :
    (tail.snoc factor operand).nesting = max tail.nesting operand.nesting := by
  match tail with
  | .nil => simp [snoc, nesting]
  | .cons f d tail => simp [snoc, nesting, tail.nesting_snoc factor operand, Nat.max_assoc]

theorem SumTail.tokens_snoc (tail : SumTail) (sign : Sign) (operand : Product) :
    (tail.snoc sign operand).tokens = tail.tokens ++ sign.token :: operand.tokens := by
  match tail with
  | .nil => simp [snoc, tokens]
  | .cons s d tail => simp [snoc, tokens, tail.tokens_snoc sign operand]

theorem SumTail.tree_snoc (tail : SumTail) (sign : Sign) (operand : Product)
    (lhs : Expr Decimal) :
    (tail.snoc sign operand).tree lhs = .binary sign.op (tail.tree lhs) operand.tree := by
  match tail with
  | .nil => rfl
  | .cons s d tail => exact tail.tree_snoc sign operand _

theorem SumTail.nesting_snoc (tail : SumTail) (sign : Sign) (operand : Product) :
    (tail.snoc sign operand).nesting = max tail.nesting operand.nesting := by
  match tail with
  | .nil => simp [snoc, nesting]
  | .cons s d tail => simp [snoc, nesting, tail.nesting_snoc sign operand, Nat.max_assoc]

end Grammar

/-! ## Derivations -/

open Grammar

/-- The tokens have a derivation for this place, of this tree and this nesting. -/
def Derivable : Place → List Token → Expr Decimal → Nat → Prop
  | .sum, ts, e, n => ∃ d : Sum, d.tokens = ts ∧ d.tree = e ∧ d.nesting = n
  | .product, ts, e, n => ∃ d : Product, d.tokens = ts ∧ d.tree = e ∧ d.nesting = n
  | .signed, ts, e, n => ∃ d : Signed, d.tokens = ts ∧ d.tree = e ∧ d.nesting = n
  | .base, ts, e, n => ∃ d : Primary, d.tokens = ts ∧ d.tree = e ∧ d.nesting = n

namespace Derivable

variable {ts us : List Token} {e x y : Expr Decimal} {n m : Nat}

/-! ### Tighter places -/

theorem product_sum (h : Derivable .product ts e n) : Derivable .sum ts e n := by
  obtain ⟨d, rfl, rfl, rfl⟩ := h
  refine ⟨.mk d .nil, ?_, rfl, ?_⟩
  · simp [Sum.tokens, SumTail.tokens]
  · simp [Sum.nesting, SumTail.nesting]

theorem signed_product (h : Derivable .signed ts e n) : Derivable .product ts e n := by
  obtain ⟨d, rfl, rfl, rfl⟩ := h
  refine ⟨.mk d .nil, ?_, rfl, ?_⟩
  · simp [Product.tokens, ProductTail.tokens]
  · simp [Product.nesting, ProductTail.nesting]

theorem base_signed (h : Derivable .base ts e n) : Derivable .signed ts e n := by
  obtain ⟨d, rfl, rfl, rfl⟩ := h
  exact ⟨.power (.plain d), rfl, rfl, rfl⟩

/-- What may stand in front of a power sign may stand anywhere. -/
theorem of_base (h : Derivable .base ts e n) (p : Place) : Derivable p ts e n := by
  cases p with
  | sum => exact h.base_signed.signed_product.product_sum
  | product => exact h.base_signed.signed_product
  | signed => exact h.base_signed
  | base => exact h

/-! ### Expressions from their operands -/

theorem brackets (h : Derivable .sum ts e n) :
    Derivable .base (.lparen :: (ts ++ [.rparen])) e (n + 1) := by
  obtain ⟨d, rfl, rfl, rfl⟩ := h
  exact ⟨.bracketed d, rfl, rfl, rfl⟩

theorem number (d : Decimal) : Derivable .base [.number d] (.number d) 0 :=
  ⟨.number d, rfl, rfl, rfl⟩

theorem neg (h : Derivable .signed ts e n) :
    Derivable .signed (.minus :: ts) (.neg e) (n + 1) := by
  obtain ⟨d, rfl, rfl, rfl⟩ := h
  exact ⟨.sign .minus d, rfl, rfl, rfl⟩

theorem pow (hx : Derivable .base ts x n) (hy : Derivable .signed us y m) :
    Derivable .signed (ts ++ .caret :: us) (.binary .pow x y) (max n (m + 1)) := by
  obtain ⟨d, rfl, rfl, rfl⟩ := hx
  obtain ⟨d', rfl, rfl, rfl⟩ := hy
  exact ⟨.power (.raised d d'), rfl, rfl, rfl⟩

theorem factor (factor : Factor) (hx : Derivable .product ts x n)
    (hy : Derivable .signed us y m) :
    Derivable .product (ts ++ factor.token :: us) (.binary factor.op x y) (max n m) := by
  obtain ⟨⟨head, tail⟩, rfl, rfl, rfl⟩ := hx
  obtain ⟨d, rfl, rfl, rfl⟩ := hy
  refine ⟨.mk head (tail.snoc factor d), ?_, tail.tree_snoc factor d _, ?_⟩
  · rw [Product.tokens, Product.tokens, tail.tokens_snoc, List.append_assoc]
  · rw [Product.nesting, Product.nesting, tail.nesting_snoc, Nat.max_assoc]

theorem sign (sign : Sign) (hx : Derivable .sum ts x n) (hy : Derivable .product us y m) :
    Derivable .sum (ts ++ sign.token :: us) (.binary sign.op x y) (max n m) := by
  obtain ⟨⟨head, tail⟩, rfl, rfl, rfl⟩ := hx
  obtain ⟨d, rfl, rfl, rfl⟩ := hy
  refine ⟨.mk head (tail.snoc sign d), ?_, tail.tree_snoc sign d _, ?_⟩
  · rw [Sum.tokens, Sum.tokens, tail.tokens_snoc, List.append_assoc]
  · rw [Sum.nesting, Sum.nesting, tail.nesting_snoc, Nat.max_assoc]

end Derivable

/-- The tokens that are written for an expression. -/
def written (e : Expr Literal) : List Token := e.lexemes.map Lexeme.token

/-- The tokens that are written for an operand in its place. -/
def writtenAt (p : Place) (e : Expr Literal) : List Token :=
  (enclose (p.brackets e) e.lexemes).map Lexeme.token

/-- If an expression without brackets is derivable wherever it needs none, then an operand is
derivable in any place. -/
theorem derivable_at {e : Expr Literal} {x : Expr Decimal} {n : Nat}
    (h : ∀ p : Place, p.brackets e = false → Derivable p e.written x n) (p : Place) :
    Derivable p (writtenAt p e) x (n + (p.brackets e).toNat) := by
  unfold writtenAt
  cases hp : p.brackets e with
  | false => exact h p hp
  | true =>
      have hbase := ((h .sum rfl).brackets).of_base p
      simpa [enclose, written, Lexeme.token] using hbase

/-- What is written for an expression is derivable wherever it needs no brackets. -/
theorem derivable (e : Expr Literal) (p : Place) (hp : p.brackets e = false) :
    Derivable p e.written (e.map Literal.value) e.depth := by
  induction e generalizing p with
  | number l => exact (Derivable.number l.value).of_base p
  | neg e ih =>
      have hneg := (derivable_at ih .signed).neg
      cases p with
      | sum => exact hneg.signed_product.product_sum
      | product => exact hneg.signed_product
      | signed => exact hneg
      | base => cases hp
  | binary op l r ihl ihr =>
      have hl := derivable_at ihl (.left op)
      have hr := derivable_at ihr (.right op)
      have hwritten : (binary op l r).written =
          writtenAt (.left op) l ++ (Lexeme.ofOp op).token :: writtenAt (.right op) r := by
        simp [written, lexemes, writtenAt]
      rw [hwritten]
      cases op with
      | add =>
          cases p with
          | sum => exact hl.sign .plus hr
          | _ => cases hp
      | sub =>
          cases p with
          | sum => exact hl.sign .minus hr
          | _ => cases hp
      | mul =>
          have hmul := hl.factor .multiply hr
          cases p with
          | sum => exact hmul.product_sum
          | product => exact hmul
          | _ => cases hp
      | div =>
          have hdiv := hl.factor .divide hr
          cases p with
          | sum => exact hdiv.product_sum
          | product => exact hdiv
          | _ => cases hp
      | pow =>
          have hpow := hl.pow hr
          cases p with
          | sum => exact hpow.signed_product.product_sum
          | product => exact hpow.signed_product
          | signed => exact hpow
          | base => cases hp

/-! ## Neighbours -/

namespace Lexeme

/-- These two are told apart without a blank between them. -/
def Apart (l l' : Lexeme) : Prop :=
  (l.isNumber = true → l'.isNumber = false) ∧ (l = star → l' ≠ star)

variable {l l' : Lexeme}

/-- Neither a number nor a star. -/
theorem apart_of_left (hnumber : l.isNumber = false) (hstar : l ≠ star) (l' : Lexeme) :
    l.Apart l' := by
  refine ⟨fun h => ?_, fun h => absurd h hstar⟩
  rw [hnumber] at h
  cases h

theorem apart_of_right (hstar : l ≠ star) (hnumber : l'.isNumber = false) : l.Apart l' :=
  ⟨fun _ => hnumber, fun h => absurd h hstar⟩

/-- The first character of a lexeme tells numbers and stars from the others. -/
theorem exists_text_eq_cons (l : Lexeme) :
    ∃ c r, l.text = c :: r ∧ (isLiteralChar c = true → l.isNumber = true) ∧
      (c = '*' → l = star) := by
  cases l with
  | number literal =>
      obtain ⟨c, r, htext⟩ := List.exists_cons_of_ne_nil literal.text_ne_nil
      refine ⟨c, r, htext, fun _ => rfl, ?_⟩
      rintro rfl
      have hstar := literal.isLiteralChar_of_mem (htext ▸ List.mem_cons_self)
      exact absurd hstar (by decide)
  | star => exact ⟨'*', [], rfl, by decide, fun _ => rfl⟩
  | plus | minus | slash | caret | lparen | rparen =>
      exact ⟨_, [], rfl, by decide, fun h => absurd h (by decide)⟩

/-- A lexeme in front of a text is a token of its own, unless what follows carries it on. -/
theorem tokens_text_append (l : Lexeme)
    (hnumber : l.isNumber = true → ∀ c ∈ s.head?, isLiteralChar c = false)
    (hstar : l = star → s.head? ≠ some '*') :
    tokens (l.text ++ s) = (tokens s).map (l.token :: ·) := by
  cases l with
  | number literal =>
      obtain ⟨c, r, htext⟩ := List.exists_cons_of_ne_nil literal.text_ne_nil
      have hall : ∀ d ∈ c :: r, isLiteralChar d = true := by
        intro d hd
        exact literal.isLiteralChar_of_mem (htext ▸ hd)
      have hr : ∀ d ∈ r, isLiteralChar d = true := fun d hd => hall d (List.mem_cons_of_mem _ hd)
      -- the run ends with the literal
      have htake : s.takeWhile isLiteralChar = [] := by
        cases s with
        | nil => rfl
        | cons d s => exact List.takeWhile_cons_of_neg (by simp [hnumber rfl d rfl])
      have hdrop : s.dropWhile isLiteralChar = s := by
        cases s with
        | nil => rfl
        | cons d s => exact List.dropWhile_cons_of_neg (by simp [hnumber rfl d rfl])
      have hvalue := literal.ofRun?_text
      rw [htext] at hvalue
      have hread : tokens (c :: (r ++ s)) = (tokens s).map (.number literal.value :: ·) := by
        rw [tokens_run (hall c List.mem_cons_self), List.takeWhile_append_of_pos hr, htake,
          List.append_nil, hvalue, List.dropWhile_append_of_pos hr, hdrop]
      show tokens (literal.text ++ s) = _
      rw [htext]
      exact hread
  | star => exact tokens_sign rfl fun _ => hstar rfl
  | plus | minus | slash | caret | lparen | rparen =>
      exact tokens_sign rfl fun h => absurd h (by decide)

theorem isAllowed_of_mem (l : Lexeme) {c : Char} (hc : c ∈ l.text) : isAllowed c = true := by
  cases l with
  | number literal => exact isAllowed_of_isLiteralChar (literal.isLiteralChar_of_mem hc)
  | _ =>
      rw [List.mem_singleton.1 hc]
      decide

end Lexeme

/-- What an operator can stand beside: neighbours are told apart, and no star is at either end. -/
structure Closed (ls : List Lexeme) : Prop where
  chain : ls.IsChain Lexeme.Apart
  head : ∃ l ∈ ls.head?, l ≠ .star
  last : ∃ l ∈ ls.getLast?, l ≠ .star

namespace Closed

variable {ls ls' : List Lexeme} {l : Lexeme}

theorem singleton (hl : l ≠ .star) : Closed [l] where
  chain := .singleton l
  head := ⟨l, rfl, hl⟩
  last := ⟨l, rfl, hl⟩

theorem append (h : Closed ls) (h' : Closed ls')
    (hmiddle : ∀ l ∈ ls.getLast?, ∀ l' ∈ ls'.head?, l.Apart l') : Closed (ls ++ ls') where
  chain := List.isChain_append.2 ⟨h.chain, h'.chain, hmiddle⟩
  head := by
    obtain ⟨first, hfirst, hne⟩ := h.head
    exact ⟨first, List.mem_head?_append_of_mem_head? hfirst, hne⟩
  last := by
    obtain ⟨last, hlast, hne⟩ := h'.last
    exact ⟨last, List.mem_getLast?_append_of_mem_getLast? hlast, hne⟩

/-- A sign in front of an operand. -/
theorem cons (hnumber : l.isNumber = false) (hstar : l ≠ .star) (h : Closed ls) :
    Closed (l :: ls) := by
  refine (singleton hstar).append h ?_
  intro m hm m' _
  cases hm
  exact Lexeme.apart_of_left hnumber hstar m'

/-- A sign behind an operand. -/
theorem concat (h : Closed ls) (hnumber : l.isNumber = false) (hstar : l ≠ .star) :
    Closed (ls ++ [l]) := by
  refine h.append (singleton hstar) ?_
  intro m hm m' hm'
  obtain ⟨last, hlast, hne⟩ := h.last
  cases hlast.symm.trans hm
  cases hm'
  exact Lexeme.apart_of_right hne hnumber

/-- A sign between two operands, which may be a star. -/
theorem join (h : Closed ls) (h' : Closed ls') (hl : l.isNumber = false) :
    Closed (ls ++ l :: ls') := by
  obtain ⟨first, hfirst, hfirst_ne⟩ := h.head
  obtain ⟨last, hlast, hlast_ne⟩ := h.last
  obtain ⟨first', hfirst', hfirst_ne'⟩ := h'.head
  obtain ⟨last', hlast', hlast_ne'⟩ := h'.last
  refine ⟨?_, ⟨first, List.mem_head?_append_of_mem_head? hfirst, hfirst_ne⟩, last', ?_, hlast_ne'⟩
  · rw [List.isChain_append, List.isChain_cons]
    refine ⟨h.chain, ⟨?_, h'.chain⟩, ?_⟩
    · intro m hm
      cases hfirst'.symm.trans hm
      refine ⟨fun hnumber => ?_, fun _ => hfirst_ne'⟩
      rw [hl] at hnumber
      cases hnumber
    · intro m hm m' hm'
      cases hlast.symm.trans hm
      cases hm'
      exact Lexeme.apart_of_right hlast_ne hl
  · have htail : last' ∈ ([l] ++ ls').getLast? := List.mem_getLast?_append_of_mem_getLast? hlast'
    exact List.mem_getLast?_append_of_mem_getLast? htail

theorem enclose (h : Closed ls) (inBrackets : Bool) : Closed (enclose inBrackets ls) := by
  cases inBrackets with
  | false => exact h
  | true => exact (h.concat rfl (by simp)).cons rfl (by simp)

end Closed

theorem closed_lexemes (e : Expr Literal) : Closed e.lexemes := by
  induction e with
  | number l => exact .singleton (by simp)
  | neg e ih => exact (ih.enclose _).cons rfl (by simp)
  | binary op l r ihl ihr =>
      have hop : (Lexeme.ofOp op).isNumber = false := by cases op <;> rfl
      exact (ihl.enclose _).join (ihr.enclose _) hop

/-! ## Reading back -/

/-- A spaced text starts with a blank, or with its first lexeme. -/
theorem Spaced.head? {ls : List Lexeme} (h : Spaced ls s) {c : Char} (hc : c ∈ s.head?) :
    isBlank c = true ∨ ∃ l ∈ ls.head?, ∃ r, l.text = c :: r := by
  cases h with
  | done hgap => exact .inl (List.all_eq_true.1 hgap c (List.mem_of_mem_head? hc))
  | @next gap s ls hgap l h =>
      cases gap with
      | nil =>
          obtain ⟨d, r, htext, -⟩ := l.exists_text_eq_cons
          rw [htext] at hc
          cases hc
          exact .inr ⟨l, rfl, r, htext⟩
      | cons b gap =>
          cases hc
          exact .inl (List.all_eq_true.1 hgap c List.mem_cons_self)

theorem Spaced.isAllowed {ls : List Lexeme} (h : Spaced ls s) : ∀ c ∈ s, isAllowed c = true := by
  have hblank {gap : Text} (hgap : isBlankText gap = true) :
      ∀ c ∈ gap, Expr.isAllowed c = true := by
    intro c hc
    simp [Expr.isAllowed, List.all_eq_true.1 hgap c hc]
  induction h with
  | done hgap => exact hblank hgap
  | @next gap s ls hgap l h ih =>
      intro c hc
      rcases List.mem_append.1 hc with hc | hc
      · exact hblank hgap c hc
      rcases List.mem_append.1 hc with hc | hc
      · exact l.isAllowed_of_mem hc
      · exact ih c hc

/-- Lexemes that are told apart are read one by one, blanks between them or not. -/
theorem Spaced.tokens_eq {ls : List Lexeme} (h : Spaced ls s) (hls : ls.IsChain Lexeme.Apart) :
    tokens s = .ok (ls.map Lexeme.token) := by
  induction h with
  | done hgap => exact tokens_of_isBlankText hgap
  | @next gap s ls hgap l h ih =>
      obtain ⟨hnext, hls⟩ := List.isChain_cons.1 hls
      rw [tokens_blanks_append hgap, l.tokens_text_append, ih hls]
      · rfl
      · -- a number is followed by a blank or by another lexeme that is none
        intro hnumber c hc
        rcases h.head? hc with hblank | ⟨l', hl', r, htext⟩
        · exact isLiteralChar_of_isBlank hblank
        · obtain ⟨c', r', htext', hliteral, -⟩ := l'.exists_text_eq_cons
          cases htext.symm.trans htext'
          rw [Bool.eq_false_iff]
          intro hc'
          have hnot := (hnext l' hl').1 hnumber
          rw [hliteral hc'] at hnot
          cases hnot
      · intro hstar hc
        rcases h.head? hc with hblank | ⟨l', hl', r, htext⟩
        · exact absurd hblank (by decide)
        · obtain ⟨c', r', htext', -, hstar'⟩ := l'.exists_text_eq_cons
          cases htext.symm.trans htext'
          exact (hnext l' hl').2 hstar (hstar' rfl)

/-- What is written for an expression reads back as this expression exactly if it is within the
bounds, with blanks between its tokens or without. -/
theorem parse_printed (e : Expr Literal) :
    Spaced e.lexemes e.print ∧
    ∀ s, Spaced e.lexemes s →
      (parse s = .ok (e.map Literal.value) ↔
        e.lexemes.length ≤ maxTokens ∧ e.depth ≤ maxDepth) := by
  refine ⟨spaced_flatMap e.lexemes, ?_⟩
  intro s hs
  have hread : parse s = ofTokens e.written := by
    rw [parse_of_allowed hs.isAllowed, hs.tokens_eq e.closed_lexemes.chain]
    rfl
  obtain ⟨d, htokens, htree, hnesting⟩ := e.derivable .sum rfl
  have hlength : e.written.length = e.lexemes.length := List.length_map _
  rw [hread, ofTokens_eq_ok_iff, hlength]
  constructor
  · rintro ⟨hlen, d', htokens', hdepth, -⟩
    -- there is no other derivation
    have hsame : d' = d := Sum.eq_of_tokens_eq (htokens'.trans htokens.symm)
    rw [hsame, hnesting] at hdepth
    exact ⟨hlen, hdepth⟩
  · rintro ⟨hlen, hdepth⟩
    exact ⟨hlen, d, htokens, hnesting ▸ hdepth, htree⟩

/-- The negative of a power, with a sum for its base and a negative exponent. -/
def signedPower : Expr Literal :=
  let half : Literal := ⟨[], some "5".toList, by decide, by decide⟩
  let two : Literal := ⟨"2".toList, some [], by decide, by decide⟩
  let three : Literal := ⟨"3".toList, none, by decide, by decide⟩
  .neg (.binary .pow (.binary .add (.number half) (.number two)) (.neg (.number three)))

theorem parse_printed_signedPower :
    signedPower.print = "-(.5+2.)^-3".toList ∧
    Spaced signedPower.lexemes " -( .5+2. )^- 3".toList ∧
    parse " -( .5+2. )^- 3".toList = .ok (signedPower.map Literal.value) := by
  have hspaced : Spaced signedPower.lexemes " -( .5+2. )^- 3".toList := by
    have hnone : isBlankText [] = true := rfl
    have hone : isBlankText [' '] = true := rfl
    exact .next hone .minus <| .next hnone .lparen <| .next hone (.number _) <|
      .next hnone .plus <| .next hnone (.number _) <| .next hone .rparen <|
      .next hnone .caret <| .next hnone .minus <| .next hone (.number _) <| .done hnone
  exact ⟨rfl, hspaced, ((parse_printed signedPower).2 _ hspaced).2 (by decide)⟩

end Expr
end ChatAssistant
