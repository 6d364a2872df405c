import ChatAssistant.Problem.Answer
import ChatAssistant.Proofs.Number.Digits
import ChatAssistant.Proofs.Number.Range
import ChatAssistant.Proofs.Problem.PowerRoot

/-!
# Solutions in finite numbers

A literal may be too large for a machine number, and so may be what is computed from literals.  No
solution has such a number in it: each solver takes all literals of a text or none of them, and what
it computes from them is checked, or cannot be too large.

* `Kind.literals` — the literals that each solver reads;
* `Sound`, `sound_of_solve?` — the solution is computed from the first of them and is finite, for
  all numbers with results as in `Closed`;
* `Elementary` — the functions of machine numbers that their format does not define;
* `Elementary.solve?_finite` — solutions are written in finite numbers, and literals that are too
  large have none.
-/

namespace ChatAssistant
namespace Problem

variable {α : Type} [Arithmetic α] {s : Text} {x : Solution α} {a : α} {rest : List α}
  {ls : List SignedDecimal} {d : Decimal}

/-! ## The literals of a text -/

def SignedDecimal.unsigned (d : Decimal) : SignedDecimal := ⟨false, d⟩

/-- The literal is not too large. -/
def SignedDecimal.IsFinite (α : Type) [Arithmetic α] (l : SignedDecimal) : Prop :=
  Arithmetic.isFinite (Arithmetic.ofDecimal l.magnitude : α) = true

/-- The two literals of a percentage problem, of which the first phrasing that fits anywhere
decides. -/
def percentageLiterals (s : Text) : List Decimal :=
  ((Text.findFirst? percentOfAt? s).or (Text.findFirst? whatPercentAt? s)).elim []
    fun found => [found.1, found.2]

/-- The literals that a solver reads: all of those of its own form, and of a percentage problem the
two that it is about. -/
def Kind.literals (kind : Kind) (s : Text) : List SignedDecimal :=
  match kind with
  | .howMuch => []
  | .equation => occurrences signedAt? s
  | .powerRoot => (occurrences integerAt? s).map .unsigned
  | .percentage => (percentageLiterals s).map .unsigned
  | .trigonometry => (occurrences decimalAt? s).map .unsigned

theorem integers_eq (s : Text) :
    integers α s = allFinite α ((Kind.literals .powerRoot s).map (·.toNumber α)) := by
  unfold Kind.literals
  rw [List.map_map]
  rfl

theorem decimals_eq (s : Text) :
    decimals α s = allFinite α ((Kind.literals .trigonometry s).map (·.toNumber α)) := by
  unfold Kind.literals
  rw [List.map_map]
  rfl

/-! ## Numbers that need no check -/

/-- What is computed without a check is finite. -/
structure Closed (α : Type) [Arithmetic α] : Prop where
  neg : ∀ a : α, Arithmetic.isFinite (Arithmetic.neg a) = Arithmetic.isFinite a
  /-- Square roots are taken of literals only, which have no sign. -/
  sqrt : ∀ d : Decimal, Arithmetic.isFinite (Arithmetic.ofDecimal d : α) = true →
    Arithmetic.isFinite (Arithmetic.sqrt (Arithmetic.ofDecimal d : α)) = true
  cbrt : ∀ a : α, Arithmetic.isFinite a = true → Arithmetic.isFinite (Arithmetic.cbrt a) = true
  radians : ∀ a : α, Arithmetic.isFinite a = true →
    Arithmetic.isFinite (Arithmetic.radians a) = true
  sin : ∀ a : α, Arithmetic.isFinite a = true → Arithmetic.isFinite (Arithmetic.sin a) = true
  cos : ∀ a : α, Arithmetic.isFinite a = true → Arithmetic.isFinite (Arithmetic.cos a) = true
  tan : ∀ a : α, Arithmetic.isFinite a = true → Arithmetic.isFinite (Arithmetic.tan a) = true
  inverse : ∀ a : α, Arithmetic.isFinite a = true → Arithmetic.isNegligible a = false →
    Arithmetic.isFinite (Arithmetic.div (Arithmetic.ofNat 1) a) = true

/-- A literal is too large with a sign if it is without. -/
theorem Closed.isFinite_toNumber (hα : Closed α) (l : SignedDecimal) :
    Arithmetic.isFinite (l.toNumber α) = true ↔ l.IsFinite α := by
  unfold SignedDecimal.toNumber SignedDecimal.IsFinite
  dsimp only
  split
  · rw [hα.neg]
  · exact Iff.rfl

/-- All of the literals are taken, or none of them. -/
theorem Closed.literals_of_allFinite (hα : Closed α)
    (h : allFinite α (ls.map (·.toNumber α)) = a :: rest) :
    ls.map (·.toNumber α) = a :: rest ∧ ∀ l ∈ ls, l.IsFinite α := by
  unfold allFinite at h
  split at h
  · rename_i hall
    refine ⟨h, fun l hl => (hα.isFinite_toNumber l).1 ?_⟩
    exact List.all_eq_true.1 hall _ (List.mem_map_of_mem hl)
  · cases h

/-! ## Solutions -/

/-- The numbers that were computed for a solution. -/
def Solution.results : Solution α → List α
  | .linear _ _ _ _ x => [x]
  | .squareRoot _ result | .cubeRoot _ result | .square _ result | .power _ _ result => [result]
  | .percentOf _ _ result | .proportion _ _ result => [result]
  | .trigonometric _ _ value => value.toList

/-- A solution shows the numbers that it is computed from, and the results. -/
theorem Solution.mem_numbers_iff {α : Type} {x : Solution α} {a : α} :
    a ∈ x.numbers ↔ a ∈ x.operands ∨ a ∈ x.results := by
  cases x <;> simp only [numbers, operands, results, List.mem_cons, List.not_mem_nil, or_false] <;>
    tauto

/-- The solution is computed from the first of the literals, none of which is too large, and its
results are finite. -/
structure Sound (ls : List SignedDecimal) (x : Solution α) : Prop where
  literals : ∀ l ∈ ls, l.IsFinite α
  operands : x.operands <+: ls.map (·.toNumber α)
  results : ∀ a ∈ x.results, Arithmetic.isFinite a = true

/-- All numbers of a sound solution are finite. -/
theorem Sound.isFinite (h : Sound ls x) (hα : Closed α) :
    ∀ a ∈ x.numbers, Arithmetic.isFinite a = true := by
  intro a ha
  rcases Solution.mem_numbers_iff.1 ha with ha | ha
  · obtain ⟨l, hl, rfl⟩ := List.mem_map.1 (h.operands.subset ha)
    exact (hα.isFinite_toNumber l).2 (h.literals l hl)
  · exact h.results a ha

/-! ## The solvers -/

theorem sound_of_solveLinear? (hα : Closed α) (h : solveLinear? α s = some x) :
    Sound (Kind.literals .equation s) x := by
  unfold solveLinear? at h
  split at h
  · cases h
  · split at h
    · rename_i a b c more hnumbers
      obtain ⟨hmap, hliterals⟩ := hα.literals_of_allFinite hnumbers
      split at h
      · cases h
      · dsimp only at h
        split at h
        · rename_i hfinite
          cases h
          exact ⟨hliterals, ⟨more, hmap.symm⟩, List.forall_mem_singleton.2 hfinite⟩
        · cases h
    · cases h

theorem sound_of_solvePowerRoot? (hα : Closed α) (h : solvePowerRoot? α s = some x) :
    Sound (Kind.literals .powerRoot s) x := by
  unfold solvePowerRoot? at h
  dsimp only at h
  rw [integers_eq] at h
  split at h
  · cases h
  · rename_i n others hnumbers
    obtain ⟨hmap, hliterals⟩ := hα.literals_of_allFinite hnumbers
    have hfirst : [n] <+: (Kind.literals .powerRoot s).map (·.toNumber α) := ⟨others, hmap.symm⟩
    split at h
    · -- a root is not checked, but it is that of a literal
      obtain ⟨l, hl, rfl⟩ := List.mem_map.1 (hfirst.subset (List.mem_singleton_self n))
      obtain ⟨d, -, rfl⟩ := List.mem_map.1 hl
      have hfinite : Arithmetic.isFinite (Arithmetic.ofDecimal d : α) = true := hliterals _ hl
      split at h
      · cases h
        exact ⟨hliterals, hfirst, List.forall_mem_singleton.2 (hα.cbrt _ hfinite)⟩
      · cases h
        exact ⟨hliterals, hfirst, List.forall_mem_singleton.2 (hα.sqrt d hfinite)⟩
    · split at h
      · obtain ⟨hfinite, rfl⟩ := finiteResult?_eq_some_iff.1 h
        exact ⟨hliterals, hfirst, List.forall_mem_singleton.2 hfinite⟩
      · split at h
        · cases others with
          | nil => cases h
          | cons exponent more =>
              obtain ⟨hfinite, rfl⟩ := finiteResult?_eq_some_iff.1 h
              exact ⟨hliterals, ⟨more, hmap.symm⟩, List.forall_mem_singleton.2 hfinite⟩
        · cases h

theorem finite?_eq_some_iff :
    finite? α d = some a ↔
      Arithmetic.isFinite (Arithmetic.ofDecimal d : α) = true ∧ a = Arithmetic.ofDecimal d := by
  unfold finite?
  rw [Option.ite_none_right_eq_some, Option.some_inj]
  exact and_congr_right' eq_comm

/-- The two numbers of a percentage problem, and the check of its result. -/
theorem sound_of_percentage {p w : Decimal} {percent whole result : α}
    {solution : α → Solution α} (hliterals : percentageLiterals s = [p, w])
    (hp : finite? α p = some percent) (hw : finite? α w = some whole)
    (h : finiteResult? result solution = some x)
    (hoperands : (solution result).operands = [percent, whole])
    (hresults : (solution result).results = [result]) :
    Sound (Kind.literals .percentage s) x := by
  obtain ⟨hpercent, rfl⟩ := finite?_eq_some_iff.1 hp
  obtain ⟨hwhole, rfl⟩ := finite?_eq_some_iff.1 hw
  obtain ⟨hfinite, rfl⟩ := finiteResult?_eq_some_iff.1 h
  have hls : Kind.literals .percentage s = [.unsigned p, .unsigned w] :=
    congrArg (List.map _) hliterals
  rw [hls]
  refine ⟨?_, ?_, ?_⟩
  · exact List.forall_mem_cons.2 ⟨hpercent, List.forall_mem_singleton.2 hwhole⟩
  · rw [hoperands]
    exact List.prefix_rfl
  · rw [hresults]
    exact List.forall_mem_singleton.2 hfinite

theorem sound_of_solvePercentage? (h : solvePercentage? α s = some x) :
    Sound (Kind.literals .percentage s) x := by
  unfold solvePercentage? at h
  split at h
  · rename_i p w hfound
    obtain ⟨percent, hp, h⟩ := Option.bind_eq_some_iff.1 h
    obtain ⟨whole, hw, h⟩ := Option.bind_eq_some_iff.1 h
    refine sound_of_percentage ?_ hp hw h rfl rfl
    unfold percentageLiterals
    rw [hfound]
    rfl
  · rename_i hnone
    split at h
    · rename_i p w hfound
      obtain ⟨part, hp, h⟩ := Option.bind_eq_some_iff.1 h
      obtain ⟨whole, hw, h⟩ := Option.bind_eq_some_iff.1 h
      dsimp only at h
      split at h
      · cases h
      · refine sound_of_percentage ?_ hp hw h rfl rfl
        unfold percentageLiterals
        rw [hnone, hfound]
        rfl
    · cases h

/-- A function is finite where it is defined. -/
theorem isFinite_of_value? (hα : Closed α) {f : TrigFunction} {angle v : α}
    (hangle : Arithmetic.isFinite angle = true) (h : f.value? angle = some v) :
    Arithmetic.isFinite v = true := by
  cases f with
  | sin =>
      cases h
      exact hα.sin _ hangle
  | cos =>
      cases h
      exact hα.cos _ hangle
  | tan =>
      unfold TrigFunction.value? at h
      dsimp only at h
      split at h
      · cases h
      · cases h
        exact hα.tan _ hangle
  | cot =>
      unfold TrigFunction.value? at h
      dsimp only at h
      split at h
      · cases h
      · rename_i hlarge
        cases h
        exact hα.inverse _ (hα.tan _ hangle) (Bool.eq_false_iff.2 hlarge)

theorem sound_of_solveTrigonometry? (hα : Closed α) (h : solveTrigonometry? α s = some x) :
    Sound (Kind.literals .trigonometry s) x := by
  unfold solveTrigonometry? at h
  obtain ⟨f, -, h⟩ := Option.bind_eq_some_iff.1 h
  obtain ⟨angle, hangle, h⟩ := Option.bind_eq_some_iff.1 h
  cases h
  obtain ⟨others, hnumbers⟩ := List.head?_eq_some_iff.1 hangle
  rw [decimals_eq] at hnumbers
  obtain ⟨hmap, hliterals⟩ := hα.literals_of_allFinite hnumbers
  have hfirst : [angle] <+: (Kind.literals .trigonometry s).map (·.toNumber α) :=
    ⟨others, hmap.symm⟩
  refine ⟨hliterals, hfirst, fun v hv => ?_⟩
  obtain ⟨l, hl, rfl⟩ := List.mem_map.1 (hfirst.subset (List.mem_singleton_self angle))
  have hfinite := (hα.isFinite_toNumber l).2 (hliterals l hl)
  exact isFinite_of_value? hα (hα.radians _ hfinite) (Option.mem_toList.1 hv)

/-- Whatever a solver finds is sound. -/
theorem sound_of_solve? (hα : Closed α) {kind : Kind} (h : kind.solve? α s = some x) :
    Sound (kind.literals s) x := by
  cases kind with
  | howMuch => cases h
  | equation => exact sound_of_solveLinear? hα h
  | powerRoot => exact sound_of_solvePowerRoot? hα h
  | percentage => exact sound_of_solvePercentage? h
  | trigonometry => exact sound_of_solveTrigonometry? hα h

/-! ## Texts -/

/-- Two ways to write numbers give the same text of a solution if they agree on its numbers. -/
theorem Solution.toText_congr {α : Type} {A B : Arithmetic α} {x : Solution α}
    (h : ∀ a ∈ x.numbers,
      A.toText a = B.toText a ∧ ∀ places, A.toFixed places a = B.toFixed places a) :
    @Solution.toText α A x = @Solution.toText α B x := by
  unfold Solution.toText
  cases x with
  | trigonometric f angle value =>
      obtain ⟨⟨hangle, -⟩, hvalue⟩ := List.forall_mem_cons.1 h
      dsimp only
      rw [hangle]
      cases value with
      | none => rfl
      | some v =>
          obtain ⟨-, hfixed⟩ := hvalue v (Option.mem_toList.2 rfl)
          dsimp only
          rw [hfixed]
  | _ =>
      simp only [numbers, List.forall_mem_cons] at h
      simp only [h]

/-- The text of a solution has nothing but finite numbers in it, all of them in digits. -/
structure Written (x : Solution Float) : Prop where
  finite : ∀ a ∈ x.numbers, a.isFinite = true
  /-- How other numbers are written makes no difference. -/
  only : ∀ A : Arithmetic Float,
    (∀ a : Float, a.isFinite = true → A.toText a = Arithmetic.toText a ∧
      ∀ places, A.toFixed places a = Arithmetic.toFixed places a) →
    @Solution.toText Float A x = x.toText
  digits : ∀ a ∈ x.numbers, Binary64.InDigits (Arithmetic.toText a) ∧
    ∀ places, Binary64.InDigits (Arithmetic.toFixed places a)

theorem written_of_isFinite {x : Solution Float} (h : ∀ a ∈ x.numbers, a.isFinite = true) :
    Written x where
  finite := h
  only _ hA := Solution.toText_congr fun a ha => hA a (h a ha)
  digits a ha := ⟨Binary64.inDigits_toText (h a ha), Binary64.inDigits_toFixed (h a ha)⟩

/-! ## Machine numbers -/

/-- The functions of machine numbers that their format does not define and whose values are taken
as they are; those of powers are checked. -/
structure Elementary where
  cbrt : Float → Float
  sin : Float → Float
  cos : Float → Float
  tan : Float → Float

namespace Elementary

/-- Machine numbers with these functions. -/
@[reducible]
def toArithmetic (f : Elementary) : Arithmetic Float :=
  { (inferInstance : Arithmetic Float) with
    cbrt := f.cbrt
    sin := f.sin
    cos := f.cos
    tan := f.tan }

/-- The functions of the machine. -/
def machine : Elementary := ⟨Float.cbrt, Float.sin, Float.cos, Float.tan⟩

/-- The functions have finite values for finite numbers. -/
structure Bounded (f : Elementary) : Prop where
  cbrt : ∀ a, a.isFinite = true → (f.cbrt a).isFinite = true
  sin : ∀ a, a.isFinite = true → (f.sin a).isFinite = true
  cos : ∀ a, a.isFinite = true → (f.cos a).isFinite = true
  tan : ∀ a, a.isFinite = true → (f.tan a).isFinite = true

theorem Bounded.closed {f : Elementary} (h : f.Bounded) : @Closed Float f.toArithmetic :=
  @Closed.mk Float f.toArithmetic
    (fun a => Binary64.isFinite_neg a)
    (fun d hd => Binary64.isFinite_sqrt (Binary64.unsigned_toFloat d) hd)
    h.cbrt
    (fun _ ha => Binary64.isFinite_mul_degree ha)
    h.sin h.cos h.tan
    (fun _ ha hlarge => Binary64.isFinite_inverse hlarge ha)

/-- The solution that a solver finds with these functions. -/
def solve? (f : Elementary) (kind : Kind) (s : Text) : Option (Solution Float) :=
  @Kind.solve? Float f.toArithmetic kind s

theorem solve?_machine (kind : Kind) (s : Text) : machine.solve? kind s = kind.solve? Float s := rfl

/-- All solutions are written in finite numbers, and computed from the first literals of the text.
If one of the literals is too large, there is none. -/
theorem solve?_finite (f : Elementary) (hf : f.Bounded) (kind : Kind) (s : Text) :
    (∀ x, f.solve? kind s = some x →
      Written x ∧ x.operands <+: (kind.literals s).map (·.toNumber Float)) ∧
    ((∃ l ∈ kind.literals s, (Binary64.toFloat l.magnitude).isFinite = false) →
      f.solve? kind s = none) := by
  have hclosed := hf.closed
  constructor
  · intro x hx
    have hsound := @sound_of_solve? Float f.toArithmetic s x hclosed kind hx
    refine ⟨written_of_isFinite ?_, ?_⟩
    · exact @Sound.isFinite Float f.toArithmetic x _ hsound hclosed
    · exact @Sound.operands Float f.toArithmetic _ x hsound
  · rintro ⟨l, hl, hlarge⟩
    cases hx : f.solve? kind s with
    | none => rfl
    | some x =>
        have hsound := @sound_of_solve? Float f.toArithmetic s x hclosed kind hx
        have hfinite : (Binary64.toFloat l.magnitude).isFinite = true :=
          @Sound.literals Float f.toArithmetic _ x hsound l hl
        rw [hfinite] at hlarge
        cases hlarge

/-- The value at one number of degrees, and zero at others. -/
def atDegrees (degrees : Nat) (value a : Float) : Float :=
  if a == Arithmetic.radians (Arithmetic.ofNat degrees) then value else 0

/-- Functions with one known value each, and zero elsewhere. -/
def tabulated : Elementary where
  cbrt a := if a == Arithmetic.ofNat 27 then Arithmetic.ofNat 3 else 0
  sin := atDegrees 30 (Float.ofBits 0x3FDFFFFFFFFFFFFF)
  cos := atDegrees 60 (Float.ofBits 0x3FE0000000000001)
  tan := atDegrees 45 (Float.ofBits 0x3FEFFFFFFFFFFFFF)

theorem bounded_tabulated : tabulated.Bounded := by
  have hentry (a b value : Float) (h : value.isFinite = true) :
      (if a == b then value else 0).isFinite = true := by
    split
    · exact h
    · decide +kernel
  exact ⟨fun a _ => hentry a _ _ (by decide +kernel), fun a _ => hentry a _ _ (by decide +kernel),
    fun a _ => hentry a _ _ (by decide +kernel), fun a _ => hentry a _ _ (by decide +kernel)⟩

theorem solve?_finite_sine :
    tabulated.Bounded ∧
      (∃ x, tabulated.solve? .trigonometry "sin 30".toList = some x ∧
        x.toText = "sin(30°) = 0.5000".toList ∧ Written x ∧
        x.operands <+: (Kind.literals .trigonometry "sin 30".toList).map (·.toNumber Float)) ∧
      tabulated.solve? .trigonometry ("sin ".toList ++ List.replicate 309 '9' ++ " 30".toList) =
        none := by
  have htext : (tabulated.solve? .trigonometry "sin 30".toList).map Solution.toText =
      some "sin(30°) = 0.5000".toList := by decide +kernel
  obtain ⟨x, hx, hshown⟩ := Option.map_eq_some_iff.1 htext
  have hlarge : (Kind.literals .trigonometry
      ("sin ".toList ++ List.replicate 309 '9' ++ " 30".toList)).any
        (fun l => !(Binary64.toFloat l.magnitude).isFinite) = true := by decide +kernel
  refine ⟨bounded_tabulated, ⟨x, hx, hshown, ?_⟩, ?_⟩
  · exact (tabulated.solve?_finite bounded_tabulated _ _).1 x hx
  · refine (tabulated.solve?_finite bounded_tabulated _ _).2 ?_
    obtain ⟨l, hl, hfinite⟩ := List.any_eq_true.1 hlarge
    exact ⟨l, hl, by simpa using hfinite⟩

end Elementary
end Problem
end ChatAssistant
