import ChatAssistant.Proofs.Expr.Unambiguity

/-!
# The reader accepts exactly the grammar

The reader of `levels` levels is compared with derivations whose nesting is at most `levels`.

* Completeness: in front of tokens that cannot carry it on, a derivation is read back as its tree.
  By the structure of the derivation.
* Soundness: what is read off the front is derived by some derivation of the tree that is returned.
  By the number of levels; inside one level, by the tokens that are left.
* Every error is a fault of syntax or size; none names a character.

`ofTokens_recognizes` puts them together for a whole list of tokens.
-/

namespace ChatAssistant
namespace Expr

open Grammar

/-! ## Levels -/

/-- The reader one level further in, if there is one. -/
def innerReader : Nat → Option Reader
  | 0 => none
  | levels + 1 => some (signed levels)

theorem signed_eq (levels : Nat) : signed levels = signedOperand (innerReader levels) := by
  cases levels <;> rfl

/-- Some level is left wherever something is nested. -/
theorem innerReader_of_lt {levels nesting : Nat} (h : nesting + 1 ≤ levels) :
    ∃ k, nesting ≤ k ∧ innerReader levels = some (signed k) := by
  cases levels with
  | zero => omega
  | succ k => exact ⟨k, by omega, rfl⟩

/-! ## Operators -/

@[simp] theorem sumOp?_sign (s : Sign) : sumOp? s.token = some s.op := by
  cases s <;> rfl

@[simp] theorem productOp?_factor (f : Factor) : productOp? f.token = some f.op := by
  cases f <;> rfl

theorem sumOp?_eq_some {t : Token} {op : BinaryOp} (h : sumOp? t = some op) :
    ∃ s : Sign, s.token = t ∧ s.op = op := by
  cases t with
  | plus => exact ⟨.plus, rfl, Option.some.inj h⟩
  | minus => exact ⟨.minus, rfl, Option.some.inj h⟩
  | _ => simp [sumOp?] at h

theorem productOp?_eq_some {t : Token} {op : BinaryOp} (h : productOp? t = some op) :
    ∃ f : Factor, f.token = t ∧ f.op = op := by
  cases t with
  | star => exact ⟨.multiply, rfl, Option.some.inj h⟩
  | slash => exact ⟨.divide, rfl, Option.some.inj h⟩
  | _ => simp [productOp?] at h

/-! ## Chains -/

section Chains

variable {operand : Reader} {op? : Token → Option BinaryOp}

/-- A chain ends in front of a token that is no operator of it. -/
theorem chain_stop {lhs : Expr Decimal} {rest : List Token}
    (h : ∀ t ∈ rest.head?, op? t = none) : chain operand op? lhs rest = .ok (lhs, rest) := by
  cases rest with
  | nil => rw [chain]
  | cons t r => rw [chain, h t rfl]

/-- A chain takes an operator and an operand. -/
theorem chain_step {lhs rhs : Expr Decimal} {t : Token} {op : BinaryOp} {front rest : List Token}
    (hop : op? t = some op) (hread : operand (front ++ rest) = .ok (rhs, rest)) :
    chain operand op? lhs (t :: (front ++ rest)) =
      chain operand op? (.binary op lhs rhs) rest := by
  rw [chain]
  simp [hop, hread]

/-- What a chain went through: its operators and operands up to the place where it ended. -/
inductive Chained (operand : Reader) (op? : Token → Option BinaryOp) :
    Expr Decimal → List Token → Expr Decimal → List Token → Prop where
  | stop (lhs : Expr Decimal) (ts : List Token) : Chained operand op? lhs ts lhs ts
  | next {lhs rhs e : Expr Decimal} {t : Token} {op : BinaryOp} {r mid rest : List Token}
      (hop : op? t = some op) (hread : operand r = .ok (rhs, mid))
      (hrest : Chained operand op? (.binary op lhs rhs) mid e rest) :
      Chained operand op? lhs (t :: r) e rest

theorem chained_of_chain {lhs e : Expr Decimal} {ts rest : List Token}
    (h : chain operand op? lhs ts = .ok (e, rest)) : Chained operand op? lhs ts e rest := by
  fun_induction chain operand op? lhs ts with
  | case1 lhs =>
      cases h
      exact .stop _ _
  | case2 lhs t r hop =>
      cases h
      exact .stop _ _
  | case3 => cases h
  | case4 lhs t r op hop rhs mid hread _ ih => exact .next hop hread (ih h)
  | case5 lhs t r op hop rhs mid hread _ =>
      -- The guard on the length of the rest has failed.
      cases h
      exact .next hop hread (.stop _ _)

end Chains

/-! ## Completeness -/

/-- Behind anything but a sign, a signed operand is a power. -/
theorem signedOperand_eq_power {inner : Option Reader} {ts : List Token}
    (h : ∀ (s : Sign) (r : List Token), ts ≠ s.token :: r) :
    signedOperand inner ts = power inner ts := by
  rw [signedOperand]
  · rintro r rfl
    exact h .minus r rfl
  · rintro r rfl
    exact h .plus r rfl

mutual

theorem Grammar.Sum.read (d : Sum) {levels : Nat} (hn : d.nesting ≤ levels) {rest : List Token}
    (hr : StopsAt Sum.extenders rest) :
    sum (signed levels) (d.tokens ++ rest) = .ok (d.tree, rest) := by
  match d with
  | .mk head tail =>
      rw [Sum.nesting, Nat.max_le] at hn
      rw [sum, Sum.tokens, List.append_assoc, head.read hn.1 (tail.stopsAt hr)]
      exact tail.read hn.2 hr head.tree

theorem Grammar.SumTail.read (d : SumTail) {levels : Nat} (hn : d.nesting ≤ levels)
    {rest : List Token} (hr : StopsAt Sum.extenders rest) (lhs : Expr Decimal) :
    chain (product (signed levels)) sumOp? lhs (d.tokens ++ rest) = .ok (d.tree lhs, rest) := by
  match d with
  | .nil =>
      -- What follows is none of the tokens that carry on a sum, so it is no operator of the chain.
      refine chain_stop fun t ht => ?_
      have hne := hr t ht
      cases t <;> simp_all [sumOp?, Sum.extenders]
  | .cons sign operand tail =>
      rw [SumTail.nesting, Nat.max_le] at hn
      have hread := operand.read hn.1 (tail.stopsAt hr)
      rw [SumTail.tokens, List.cons_append, List.append_assoc, chain_step (sumOp?_sign sign) hread]
      exact tail.read hn.2 hr _

theorem Grammar.Product.read (d : Product) {levels : Nat} (hn : d.nesting ≤ levels)
    {rest : List Token} (hr : StopsAt Product.extenders rest) :
    product (signed levels) (d.tokens ++ rest) = .ok (d.tree, rest) := by
  match d with
  | .mk head tail =>
      rw [Product.nesting, Nat.max_le] at hn
      rw [product, Product.tokens, List.append_assoc, head.read hn.1 (tail.stopsAt hr)]
      exact tail.read hn.2 hr head.tree

theorem Grammar.ProductTail.read (d : ProductTail) {levels : Nat} (hn : d.nesting ≤ levels)
    {rest : List Token} (hr : StopsAt Product.extenders rest) (lhs : Expr Decimal) :
    chain (signed levels) productOp? lhs (d.tokens ++ rest) = .ok (d.tree lhs, rest) := by
  match d with
  | .nil =>
      refine chain_stop fun t ht => ?_
      have hne := hr t ht
      cases t <;> simp_all [productOp?, Product.extenders]
  | .cons factor operand tail =>
      rw [ProductTail.nesting, Nat.max_le] at hn
      have hread := operand.read hn.1 (tail.stopsAt hr)
      rw [ProductTail.tokens, List.cons_append, List.append_assoc,
        chain_step (productOp?_factor factor) hread]
      exact tail.read hn.2 hr _

theorem Grammar.Signed.read (d : Signed) {levels : Nat} (hn : d.nesting ≤ levels)
    {rest : List Token} (hr : StopsAt Signed.extenders rest) :
    signed levels (d.tokens ++ rest) = .ok (d.tree, rest) := by
  match d with
  | .sign sign operand =>
      -- The sign takes one level, so the operand is left to the next reader.
      rcases innerReader_of_lt hn with ⟨k, hk, hinner⟩
      have hread := operand.read hk hr
      rw [signed_eq, hinner]
      cases sign with
      | plus => exact hread
      | minus =>
          simp only [Signed.tokens, Sign.token, List.cons_append, signedOperand, hread]
          rfl
  | .power power =>
      rw [signed_eq, Signed.tokens, signedOperand_eq_power fun s r => power.tokens_ne_sign s]
      exact power.read hn hr

theorem Grammar.Power.read (d : Power) {levels : Nat} (hn : d.nesting ≤ levels)
    {rest : List Token} (hr : StopsAt Signed.extenders rest) :
    power (innerReader levels) (d.tokens ++ rest) = .ok (d.tree, rest) := by
  match d with
  | .plain base =>
      rw [Power.tokens, power, base.read hn]
      split
      · rename_i h
        cases h
      · -- A power sign may not follow.
        rename_i h
        cases h
        exact absurd rfl (ne_caret_of_stopsAt hr)
      · rename_i h
        cases h
        rfl
  | .raised base exponent =>
      rw [Power.nesting, Nat.max_le] at hn
      rcases innerReader_of_lt hn.2 with ⟨k, hk, hinner⟩
      rw [Power.tokens, List.append_assoc, power, base.read hn.1]
      simp only [List.cons_append, hinner, exponent.read hk hr]
      rfl

theorem Grammar.Primary.read (d : Primary) {levels : Nat} (hn : d.nesting ≤ levels)
    {rest : List Token} : primary (innerReader levels) (d.tokens ++ rest) = .ok (d.tree, rest) := by
  match d with
  | .number d => rfl
  | .bracketed inner =>
      rcases innerReader_of_lt hn with ⟨k, hk, hinner⟩
      have hread := inner.read hk (stopsAt_rparen rest)
      simp only [Primary.tokens, List.cons_append, List.append_assoc, List.nil_append, primary,
        hinner, hread]
      rfl

end

/-! ## Soundness -/

/-- Whatever the reader of signed operands takes off the front has a derivation within `levels`. -/
def ReadsSigned (levels : Nat) (operand : Reader) : Prop :=
  ∀ ⦃ts : List Token⦄ ⦃e : Expr Decimal⦄ ⦃rest : List Token⦄, operand ts = .ok (e, rest) →
    ∃ d : Signed, d.tokens ++ rest = ts ∧ d.nesting ≤ levels ∧ d.tree = e

section Soundness

variable {levels : Nat} {operand : Reader} {ts rest : List Token} {lhs e : Expr Decimal}

theorem ReadsSigned.productTail (hs : ReadsSigned levels operand)
    (h : Chained operand productOp? lhs ts e rest) :
    ∃ d : ProductTail, d.tokens ++ rest = ts ∧ d.nesting ≤ levels ∧ d.tree lhs = e := by
  induction h with
  | stop lhs ts => exact ⟨.nil, rfl, Nat.zero_le _, rfl⟩
  | next hop hread _ ih =>
      rcases productOp?_eq_some hop with ⟨factor, rfl, rfl⟩
      rcases hs hread with ⟨d, rfl, hd, rfl⟩
      rcases ih with ⟨tail, rfl, ht, rfl⟩
      refine ⟨.cons factor d tail, ?_, Nat.max_le.2 ⟨hd, ht⟩, rfl⟩
      rw [ProductTail.tokens, List.cons_append, List.append_assoc]

theorem ReadsSigned.product (hs : ReadsSigned levels operand)
    (h : product operand ts = .ok (e, rest)) :
    ∃ d : Product, d.tokens ++ rest = ts ∧ d.nesting ≤ levels ∧ d.tree = e := by
  rw [Expr.product] at h
  split at h
  · cases h
  · rename_i hread
    rcases hs hread with ⟨d, rfl, hd, rfl⟩
    rcases hs.productTail (chained_of_chain h) with ⟨tail, rfl, ht, rfl⟩
    refine ⟨.mk d tail, ?_, Nat.max_le.2 ⟨hd, ht⟩, rfl⟩
    rw [Product.tokens, List.append_assoc]

theorem ReadsSigned.sumTail (hs : ReadsSigned levels operand)
    (h : Chained (Expr.product operand) sumOp? lhs ts e rest) :
    ∃ d : SumTail, d.tokens ++ rest = ts ∧ d.nesting ≤ levels ∧ d.tree lhs = e := by
  induction h with
  | stop lhs ts => exact ⟨.nil, rfl, Nat.zero_le _, rfl⟩
  | next hop hread _ ih =>
      rcases sumOp?_eq_some hop with ⟨sign, rfl, rfl⟩
      rcases hs.product hread with ⟨d, rfl, hd, rfl⟩
      rcases ih with ⟨tail, rfl, ht, rfl⟩
      refine ⟨.cons sign d tail, ?_, Nat.max_le.2 ⟨hd, ht⟩, rfl⟩
      rw [SumTail.tokens, List.cons_append, List.append_assoc]

theorem ReadsSigned.sum (hs : ReadsSigned levels operand) (h : sum operand ts = .ok (e, rest)) :
    ∃ d : Sum, d.tokens ++ rest = ts ∧ d.nesting ≤ levels ∧ d.tree = e := by
  rw [Expr.sum] at h
  split at h
  · cases h
  · rename_i hread
    rcases hs.product hread with ⟨d, rfl, hd, rfl⟩
    rcases hs.sumTail (chained_of_chain h) with ⟨tail, rfl, ht, rfl⟩
    refine ⟨.mk d tail, ?_, Nat.max_le.2 ⟨hd, ht⟩, rfl⟩
    rw [Sum.tokens, List.append_assoc]

end Soundness

section Nested

variable {levels : Nat} {ts rest : List Token} {e : Expr Decimal}

/-- The readers of smaller nesting are sound. -/
def InnerSound (levels : Nat) : Prop :=
  ∀ k, k + 1 = levels → ReadsSigned k (signed k)

theorem innerReader_eq_some {operand : Reader} (h : innerReader levels = some operand) :
    ∃ k, k + 1 = levels ∧ operand = signed k := by
  cases levels with
  | zero => cases h
  | succ k => exact ⟨k, rfl, (Option.some.inj h).symm⟩

theorem InnerSound.primary (hi : InnerSound levels)
    (h : primary (innerReader levels) ts = .ok (e, rest)) :
    ∃ d : Primary, d.tokens ++ rest = ts ∧ d.nesting ≤ levels ∧ d.tree = e := by
  unfold Expr.primary at h
  split at h
  · cases h
  · cases h
    exact ⟨.number _, rfl, Nat.zero_le _, rfl⟩
  · -- An opening bracket takes one level.
    split at h
    · cases h
    · rename_i hinner
      rcases innerReader_eq_some hinner with ⟨k, rfl, rfl⟩
      split at h
      · cases h
      · rename_i hread
        cases h
        rcases (hi k rfl).sum hread with ⟨d, rfl, hd, rfl⟩
        refine ⟨.bracketed d, ?_, Nat.succ_le_succ hd, rfl⟩
        simp [Primary.tokens]
      · cases h
  · cases h

theorem InnerSound.power (hi : InnerSound levels)
    (h : power (innerReader levels) ts = .ok (e, rest)) :
    ∃ d : Power, d.tokens ++ rest = ts ∧ d.nesting ≤ levels ∧ d.tree = e := by
  unfold Expr.power at h
  split at h
  · cases h
  · rename_i hbase
    rcases hi.primary hbase with ⟨base, rfl, hb, rfl⟩
    -- The exponent takes one level; the base does not.
    split at h
    · cases h
    · rename_i hinner
      rcases innerReader_eq_some hinner with ⟨k, rfl, rfl⟩
      split at h
      · cases h
      · rename_i hread
        cases h
        rcases hi k rfl hread with ⟨d, rfl, hd, rfl⟩
        refine ⟨.raised base d, ?_, Nat.max_le.2 ⟨hb, Nat.succ_le_succ hd⟩, rfl⟩
        simp [Power.tokens]
  · rename_i hbase
    cases h
    rcases hi.primary hbase with ⟨base, rfl, hb, rfl⟩
    exact ⟨.plain base, rfl, hb, rfl⟩

theorem InnerSound.signed (hi : InnerSound levels) : ReadsSigned levels (signed levels) := by
  intro ts e rest h
  rw [signed_eq] at h
  unfold signedOperand at h
  split at h
  · -- a minus
    split at h
    · cases h
    · rename_i hinner
      rcases innerReader_eq_some hinner with ⟨k, rfl, rfl⟩
      split at h
      · cases h
      · rename_i hread
        cases h
        rcases hi k rfl hread with ⟨d, rfl, hd, rfl⟩
        exact ⟨.sign .minus d, rfl, Nat.succ_le_succ hd, rfl⟩
  · -- a plus
    split at h
    · cases h
    · rename_i hinner
      rcases innerReader_eq_some hinner with ⟨k, rfl, rfl⟩
      rcases hi k rfl h with ⟨d, rfl, hd, rfl⟩
      exact ⟨.sign .plus d, rfl, Nat.succ_le_succ hd, rfl⟩
  · -- no sign
    rcases hi.power h with ⟨d, rfl, hd, rfl⟩
    exact ⟨.power d, rfl, hd, rfl⟩

/-- By induction on the number of levels: a reader only calls itself with one level less. -/
theorem readsSigned_signed (levels : Nat) : ReadsSigned levels (signed levels) := by
  induction levels with
  | zero => exact InnerSound.signed fun k hk => by omega
  | succ k ih =>
      refine InnerSound.signed fun j hj => ?_
      cases hj
      exact ih

end Nested

/-! ## Errors -/

/-- A fault of evaluation, as opposed to a character that may not stand in an expression. -/
def Error.isEvaluation : Error → Bool
  | .invalidCharacter _ => false
  | _ => true

/-- The reader fails with faults of evaluation only. -/
def FailsCleanly (read : Reader) : Prop :=
  ∀ ⦃ts : List Token⦄ ⦃error : Error⦄, read ts = .error error → error.isEvaluation = true

section Errors

variable {operand : Reader} {inner : Option Reader}

theorem FailsCleanly.chain (ho : FailsCleanly operand) (op? : Token → Option BinaryOp)
    (lhs : Expr Decimal) : FailsCleanly (chain operand op? lhs) := by
  intro ts error h
  fun_induction Expr.chain operand op? lhs ts with
  | case1 => cases h
  | case2 => cases h
  | case3 lhs t r op hop error' hread =>
      cases h
      exact ho hread
  | case4 lhs t r op hop rhs mid hread _ ih => exact ih h
  | case5 => cases h

theorem FailsCleanly.product (ho : FailsCleanly operand) : FailsCleanly (product operand) := by
  intro ts error h
  rw [Expr.product] at h
  split at h
  · rename_i hread
    cases h
    exact ho hread
  · exact ho.chain _ _ h

theorem FailsCleanly.sum (ho : FailsCleanly operand) : FailsCleanly (sum operand) := by
  intro ts error h
  rw [Expr.sum] at h
  split at h
  · rename_i hread
    cases h
    exact ho.product hread
  · exact ho.product.chain _ _ h

theorem failsCleanly_primary (hi : ∀ operand ∈ inner, FailsCleanly operand) :
    FailsCleanly (primary inner) := by
  intro ts error h
  unfold primary at h
  split at h
  · cases h
    rfl
  · cases h
  · split at h
    · cases h
      rfl
    · split at h
      · rename_i hread
        cases h
        exact (hi _ rfl).sum hread
      · cases h
      · cases h
        rfl
  · cases h
    rfl

theorem failsCleanly_power (hi : ∀ operand ∈ inner, FailsCleanly operand) :
    FailsCleanly (power inner) := by
  intro ts error h
  unfold power at h
  split at h
  · rename_i hbase
    cases h
    exact failsCleanly_primary hi hbase
  · split at h
    · cases h
      rfl
    · split at h
      · rename_i hread
        cases h
        exact hi _ rfl hread
      · cases h
  · cases h

theorem failsCleanly_signedOperand (hi : ∀ operand ∈ inner, FailsCleanly operand) :
    FailsCleanly (signedOperand inner) := by
  intro ts error h
  unfold signedOperand at h
  split at h
  · split at h
    · cases h
      rfl
    · split at h
      · rename_i hread
        cases h
        exact hi _ rfl hread
      · cases h
  · split at h
    · cases h
      rfl
    · exact hi _ rfl h
  · exact failsCleanly_power hi h

theorem failsCleanly_signed (levels : Nat) : FailsCleanly (signed levels) := by
  induction levels with
  | zero => exact failsCleanly_signedOperand (by simp)
  | succ k ih =>
      refine failsCleanly_signedOperand fun operand ho => ?_
      cases ho
      exact ih

end Errors

/-! ## Whole lists of tokens -/

theorem Grammar.Primary.tokens_ne_nil (d : Primary) : d.tokens ≠ [] := by
  cases d <;> simp [Primary.tokens]

/-- Every derivation of a sum derives some token. -/
theorem Grammar.Sum.tokens_ne_nil (d : Sum) : d.tokens ≠ [] := by
  rcases d with ⟨⟨head, _⟩, _⟩
  rcases head with ⟨s, operand⟩ | power
  · simp [Sum.tokens, Product.tokens, Signed.tokens]
  · rcases power with base | ⟨base, exponent⟩
    · simp [Sum.tokens, Product.tokens, Signed.tokens, Power.tokens, base.tokens_ne_nil]
    · simp [Sum.tokens, Product.tokens, Signed.tokens, Power.tokens]

theorem ofTokens_eq_ok_iff {ts : List Token} {e : Expr Decimal} :
    ofTokens ts = .ok e ↔
      ts.length ≤ maxTokens ∧ ∃ d : Sum, d.tokens = ts ∧ d.nesting ≤ maxDepth ∧ d.tree = e := by
  constructor
  · intro h
    unfold ofTokens at h
    split at h
    · cases h
    · split at h
      · cases h
      · rename_i hlen
        split at h
        · cases h
        · rename_i hread
          -- Nothing is left over.
          cases h
          rcases (readsSigned_signed maxDepth).sum hread with ⟨d, hd, hn, htree⟩
          exact ⟨Nat.le_of_not_lt hlen, d, by rw [← hd, List.append_nil], hn, htree⟩
        · cases h
  · rintro ⟨hlen, d, rfl, hn, rfl⟩
    have hread := d.read hn (stopsAt_nil _)
    rw [List.append_nil] at hread
    unfold ofTokens
    rw [if_neg (by simpa using d.tokens_ne_nil), if_neg (Nat.not_lt.2 hlen), hread]

theorem isEvaluation_of_ofTokens {ts : List Token} {error : Error}
    (h : ofTokens ts = .error error) : error.isEvaluation = true := by
  unfold ofTokens at h
  split at h
  · cases h
    rfl
  · split at h
    · cases h
      rfl
    · split at h
      · rename_i hread
        cases h
        exact (failsCleanly_signed maxDepth).sum hread
      · cases h
      · cases h
        rfl

/-- A list of tokens is read if and only if it is short enough and has a derivation that is not
nested too deeply; that derivation is the only one, and its tree is what is returned.  All other
lists are refused with a fault of evaluation. -/
theorem ofTokens_recognizes (ts : List Token) :
    (∀ e, ofTokens ts = .ok e ↔
      ts.length ≤ maxTokens ∧ ∃ d : Sum, d.tokens = ts ∧ d.nesting ≤ maxDepth ∧ d.tree = e) ∧
    (∀ d d' : Sum, d.tokens = ts → d'.tokens = ts → d = d') ∧
    ((∃ e, ofTokens ts = .ok e) ∨
      ∃ error, ofTokens ts = .error error ∧ error.isEvaluation = true) := by
  refine ⟨fun e => ofTokens_eq_ok_iff, fun d d' h h' => ?_, ?_⟩
  · exact Sum.eq_of_tokens_eq (h.trans h'.symm)
  · cases h : ofTokens ts with
    | ok e => exact .inl ⟨e, rfl⟩
    | error error => exact .inr ⟨error, rfl, isEvaluation_of_ofTokens h⟩

/-- A power binds tighter than the sign on its left, and its exponent has a sign of its own. -/
example : (ofTokens [.minus, .number ⟨2, 0⟩, .caret, .minus, .number ⟨3, 0⟩]).toOption =
    some (.neg (.binary .pow (.number ⟨2, 0⟩) (.neg (.number ⟨3, 0⟩)))) := by
  decide +kernel

end Expr
end ChatAssistant
