import ChatAssistant.Expr.Basic

/-!
# What an expression is refused a value for

An expression has a value if nothing goes wrong at any of its nodes, and the error of one without a
value is that of the first node at which something does.  Nodes come in the order in which they are
evaluated, and what goes wrong at a node is said by the numbers that its operands come to when
nothing is checked on the way.  So an operator around a node never makes good what went wrong there.

* `nodes` — the order;
* `plain` — the number that an expression comes to unchecked;
* `Proper`, `Breaks` — the conditions on a node, and the error of a node that fails one of them;
* `value_cases` — the induction: evaluation stops at the first node that breaks, and nowhere else;
* `value_iff_first_break` — values and errors, exactly.
-/

namespace ChatAssistant
namespace Expr

/-! ## Order -/

section Order

variable {α : Type} {e node : Expr α}

/-- The nodes of an expression in the order in which they are evaluated: the left operand, the right
one, then the operator.  Each is given as the expression that it is the root of. -/
def nodes : Expr α → List (Expr α)
  | number n => [number n]
  | neg e => e.nodes ++ [neg e]
  | binary op l r => l.nodes ++ (r.nodes ++ [binary op l r])

/-- The nodes of a part of an expression are nodes of the expression. -/
theorem nodes_subset (h : node ∈ e.nodes) : node.nodes ⊆ e.nodes := by
  induction e with
  | number n =>
      obtain rfl := List.mem_singleton.1 h
      exact List.Subset.refl _
  | neg e ih =>
      rcases List.mem_append.1 h with h | h
      · exact List.subset_append_of_subset_left _ (ih h)
      · obtain rfl := List.mem_singleton.1 h
        exact List.Subset.refl _
  | binary op l r ihl ihr =>
      rcases List.mem_append.1 h with h | h
      · exact List.subset_append_of_subset_left _ (ihl h)
      · rcases List.mem_append.1 h with h | h
        · exact List.subset_append_of_subset_right _ (List.subset_append_of_subset_left _ (ihr h))
        · obtain rfl := List.mem_singleton.1 h
          exact List.Subset.refl _

end Order

variable {α : Type} [Arithmetic α] {e l r node : Expr α} {ns more : List (Expr α)}
  {err err' : Error}

/-! ## Conditions -/

/-- The result of an operator on any two numbers. -/
def BinaryOp.plain (op : BinaryOp) (a b : α) : α :=
  match op with
  | .add => Arithmetic.add a b
  | .sub => Arithmetic.sub a b
  | .mul => Arithmetic.mul a b
  | .div => Arithmetic.div a b
  | .pow => Arithmetic.pow a b

/-- The number that an expression comes to when nothing is checked on the way. -/
def plain : Expr α → α
  | number n => n
  | neg e => Arithmetic.neg e.plain
  | binary op l r => BinaryOp.plain op l.plain r.plain

/-- The operator of the node, if it is one, is defined on its operands. -/
structure Defined (node : Expr α) : Prop where
  divisor : ∀ l r, node = binary .div l r → Arithmetic.isZero r.plain = false
  base : ∀ l r, node = binary .pow l r → Arithmetic.isZero l.plain = true →
    Arithmetic.isNegative r.plain = false
  exponent : ∀ l r, node = binary .pow l r → Arithmetic.isNegative l.plain = true →
    Arithmetic.isWhole r.plain = true

/-- Nothing goes wrong at the node. -/
structure Proper (node : Expr α) : Prop extends Defined node where
  finite : Arithmetic.isFinite node.plain = true

/-- What goes wrong at the node.  A zero under a negative exponent is a division by zero, even where
zero counts as negative. -/
inductive Breaks : Expr α → Error → Prop where
  | divisor {l r : Expr α} (hr : Arithmetic.isZero r.plain = true) :
      Breaks (binary .div l r) .divisionByZero
  | base {l r : Expr α} (hl : Arithmetic.isZero l.plain = true)
      (hr : Arithmetic.isNegative r.plain = true) : Breaks (binary .pow l r) .divisionByZero
  | exponent {l r : Expr α}
      (hbase : Arithmetic.isZero l.plain = true → Arithmetic.isNegative r.plain = false)
      (hl : Arithmetic.isNegative l.plain = true) (hr : Arithmetic.isWhole r.plain = false) :
      Breaks (binary .pow l r) .fractionalPowerOfNegative
  | overflow {node : Expr α} (hdefined : Defined node)
      (hfinite : Arithmetic.isFinite node.plain = false) : Breaks node .overflow

/-- Where the operator is defined, only the size of the result can be wrong. -/
theorem Breaks.eq_overflow (h : Breaks node err) (hdefined : Defined node) : err = .overflow := by
  cases h with
  | divisor hr => exact absurd ((hdefined.divisor _ _ rfl).symm.trans hr) Bool.false_ne_true
  | base hl hr => exact absurd ((hdefined.base _ _ rfl hl).symm.trans hr) Bool.false_ne_true
  | exponent hbase hl hr =>
      exact absurd (hr.symm.trans (hdefined.exponent _ _ rfl hl)) Bool.false_ne_true
  | overflow => rfl

theorem Breaks.not_proper (h : Breaks node err) : ¬ Proper node := by
  intro hproper
  obtain rfl := h.eq_overflow hproper.toDefined
  cases h with
  | overflow hdefined hfinite => exact Bool.false_ne_true (hfinite.symm.trans hproper.finite)

theorem Breaks.unique (h : Breaks node err) (h' : Breaks node err') : err = err' := by
  cases h with
  | divisor hr =>
      cases h' with
      | divisor => rfl
      | overflow hdefined => exact (Breaks.divisor hr).eq_overflow hdefined
  | base hl hr =>
      cases h' with
      | base => rfl
      | exponent hbase => exact absurd ((hbase hl).symm.trans hr) Bool.false_ne_true
      | overflow hdefined => exact (Breaks.base hl hr).eq_overflow hdefined
  | exponent hbase hl hr =>
      cases h' with
      | base hl' hr' => exact absurd ((hbase hl').symm.trans hr') Bool.false_ne_true
      | exponent => rfl
      | overflow hdefined => exact (Breaks.exponent hbase hl hr).eq_overflow hdefined
  | overflow hdefined => exact (h'.eq_overflow hdefined).symm

/-! ## The first node that breaks -/

/-- `err` is what goes wrong at the first of the nodes at which anything does. -/
def FirstBreak (ns : List (Expr α)) (err : Error) : Prop :=
  ∃ front node back, ns = front ++ node :: back ∧ (∀ m ∈ front, Proper m) ∧ Breaks node err

namespace FirstBreak

theorem not_proper (h : FirstBreak ns err) : ¬ ∀ n ∈ ns, Proper n := by
  obtain ⟨front, node, back, rfl, -, hbreaks⟩ := h
  intro hall
  exact hbreaks.not_proper (hall node (by simp))

theorem singleton (h : Breaks node err) : FirstBreak [node] err :=
  ⟨[], node, [], rfl, by simp, h⟩

/-- What comes later makes no difference. -/
theorem append (h : FirstBreak ns err) (more : List (Expr α)) : FirstBreak (ns ++ more) err := by
  obtain ⟨front, node, back, rfl, hfront, hbreaks⟩ := h
  exact ⟨front, node, back ++ more, by simp, hfront, hbreaks⟩

theorem behind (hns : ∀ n ∈ ns, Proper n) (h : FirstBreak more err) :
    FirstBreak (ns ++ more) err := by
  obtain ⟨front, node, back, rfl, hfront, hbreaks⟩ := h
  refine ⟨ns ++ front, node, back, by simp, ?_, hbreaks⟩
  intro m hm
  rcases List.mem_append.1 hm with hm | hm
  · exact hns m hm
  · exact hfront m hm

/-- Either the first node breaks, or it is passed. -/
theorem of_cons (h : FirstBreak (node :: ns) err) :
    Breaks node err ∨ (Proper node ∧ FirstBreak ns err) := by
  obtain ⟨front, n, back, heq, hfront, hbreaks⟩ := h
  cases front with
  | nil =>
      obtain ⟨rfl, -⟩ := List.cons.inj heq
      exact .inl hbreaks
  | cons m front =>
      obtain ⟨rfl, rfl⟩ := List.cons.inj heq
      have hrest : ∀ m ∈ front, Proper m := fun m hm => hfront m (List.mem_cons_of_mem _ hm)
      exact .inr ⟨hfront _ List.mem_cons_self, front, n, back, rfl, hrest, hbreaks⟩

theorem unique (h : FirstBreak ns err) (h' : FirstBreak ns err') : err = err' := by
  induction ns with
  | nil => exact absurd (by simp) h.not_proper
  | cons n ns ih =>
      rcases h.of_cons with hbreaks | ⟨hproper, hrest⟩
      · rcases h'.of_cons with hbreaks' | ⟨hproper', -⟩
        · exact hbreaks.unique hbreaks'
        · exact absurd hproper' hbreaks.not_proper
      · rcases h'.of_cons with hbreaks' | ⟨-, hrest'⟩
        · exact absurd hproper hbreaks'.not_proper
        · exact ih hrest hrest'

end FirstBreak

/-! ## Evaluation -/

/-- A number is given on if it is finite. -/
theorem finite_cases (h : Defined node) :
    (Proper node ∧ finite node.plain = .ok node.plain) ∨
      (Breaks node .overflow ∧ finite node.plain = .error .overflow) := by
  unfold finite
  cases hfinite : Arithmetic.isFinite node.plain with
  | true => exact .inl ⟨⟨h, hfinite⟩, rfl⟩
  | false => exact .inr ⟨.overflow h hfinite, rfl⟩

/-- An operator is applied where it is defined. -/
theorem apply_cases (op : BinaryOp) (l r : Expr α) :
    (Defined (binary op l r) ∧
        BinaryOp.apply op l.plain r.plain = .ok (binary op l r).plain) ∨
      ∃ err, Breaks (binary op l r) err ∧ BinaryOp.apply op l.plain r.plain = .error err := by
  unfold BinaryOp.apply
  cases op with
  | add => exact .inl ⟨⟨by simp, by simp, by simp⟩, rfl⟩
  | sub => exact .inl ⟨⟨by simp, by simp, by simp⟩, rfl⟩
  | mul => exact .inl ⟨⟨by simp, by simp, by simp⟩, rfl⟩
  | div =>
      cases hr : Arithmetic.isZero r.plain with
      | true => exact .inr ⟨_, .divisor hr, rfl⟩
      | false =>
          refine .inl ⟨⟨?_, by simp, by simp⟩, rfl⟩
          rintro l' r' heq
          cases heq
          exact hr
  | pow =>
      by_cases hbase : Arithmetic.isZero l.plain = true ∧ Arithmetic.isNegative r.plain = true
      · exact .inr ⟨_, .base hbase.1 hbase.2, by simp [hbase]⟩
      · have hbase' : Arithmetic.isZero l.plain = true → Arithmetic.isNegative r.plain = false := by
          intro hl
          rw [Bool.eq_false_iff]
          exact fun hr => hbase ⟨hl, hr⟩
        by_cases hsign : Arithmetic.isNegative l.plain = true ∧ Arithmetic.isWhole r.plain = false
        · exact .inr ⟨_, .exponent hbase' hsign.1 hsign.2, by simp [hbase, hsign]⟩
        · refine .inl ⟨⟨by simp, ?_, ?_⟩, ?_⟩
          · rintro l' r' heq
            cases heq
            exact hbase'
          · rintro l' r' heq hl
            cases heq
            rw [← Bool.not_eq_false]
            exact fun hr => hsign ⟨hl, hr⟩
          · simp only [Bool.and_eq_true, Bool.not_eq_true', if_neg hbase, if_neg hsign]
            rfl

/-- Evaluation goes through the nodes in order and stops at the first one that breaks.  By induction
on the expression: an operand that stops leaves nothing to do, and behind operands that do not, the
node itself is the last one left. -/
theorem value_cases (e : Expr α) :
    ((∀ n ∈ e.nodes, Proper n) ∧ e.value = .ok e.plain) ∨
      ∃ err, FirstBreak e.nodes err ∧ e.value = .error err := by
  induction e with
  | number n =>
      have hdefined : Defined (number n : Expr α) := ⟨by simp, by simp, by simp⟩
      rcases finite_cases hdefined with ⟨hproper, hvalue⟩ | ⟨hbreaks, hvalue⟩
      · exact .inl ⟨by simpa [nodes] using hproper, hvalue⟩
      · exact .inr ⟨_, .singleton hbreaks, hvalue⟩
  | neg e ih =>
      have hdefined : Defined (neg e) := ⟨by simp, by simp, by simp⟩
      rcases ih with ⟨hall, hoperand⟩ | ⟨err, hfirst, hoperand⟩
      · have hvalue : (neg e).value = finite (neg e).plain := by
          rw [value, hoperand]
          rfl
        rcases finite_cases hdefined with ⟨hproper, hfinite⟩ | ⟨hbreaks, hfinite⟩
        · refine .inl ⟨?_, hvalue.trans hfinite⟩
          simpa [nodes, or_imp, forall_and] using ⟨hall, hproper⟩
        · exact .inr ⟨_, .behind hall (.singleton hbreaks), hvalue.trans hfinite⟩
      · refine .inr ⟨err, hfirst.append _, ?_⟩
        rw [value, hoperand]
        rfl
  | binary op l r ihl ihr =>
      rcases ihl with ⟨hl, hleft⟩ | ⟨err, hfirst, hleft⟩
      · rcases ihr with ⟨hr, hright⟩ | ⟨err, hfirst, hright⟩
        · have hvalue : (binary op l r).value =
              (BinaryOp.apply op l.plain r.plain).bind finite := by
            rw [value, hleft, hright]
            rfl
          rcases apply_cases op l r with ⟨hdefined, happly⟩ | ⟨err, hbreaks, happly⟩
          · rw [happly] at hvalue
            rcases finite_cases hdefined with ⟨hproper, hfinite⟩ | ⟨hbreaks, hfinite⟩
            · refine .inl ⟨?_, hvalue.trans hfinite⟩
              simpa [nodes, or_imp, forall_and] using ⟨hl, hr, hproper⟩
            · exact .inr ⟨_, .behind hl (.behind hr (.singleton hbreaks)), hvalue.trans hfinite⟩
          · rw [happly] at hvalue
            exact .inr ⟨err, .behind hl (.behind hr (.singleton hbreaks)), hvalue⟩
        · refine .inr ⟨err, .behind hl (hfirst.append _), ?_⟩
          rw [value, hleft, hright]
          rfl
      · refine .inr ⟨err, hfirst.append _, ?_⟩
        rw [value, hleft]
        rfl

/-- An expression has a value exactly if nothing goes wrong at any of its nodes, and then it is the
number that it comes to.  Otherwise its error is that of the first node at which something goes
wrong, so a part without a value leaves none to any expression around it. -/
theorem value_iff_first_break (e : Expr α) :
    (∀ v, e.value = .ok v ↔ (∀ n ∈ e.nodes, Proper n) ∧ v = e.plain) ∧
      (∀ err, e.value = .error err ↔ FirstBreak e.nodes err) ∧
      ∀ n ∈ e.nodes, (∃ err, n.value = .error err) → ∃ err, e.value = .error err := by
  refine ⟨?_, ?_, ?_⟩
  · intro v
    rcases value_cases e with ⟨hall, hvalue⟩ | ⟨err, hfirst, hvalue⟩
    · rw [hvalue]
      constructor
      · rintro ⟨⟩
        exact ⟨hall, rfl⟩
      · rintro ⟨-, rfl⟩
        rfl
    · rw [hvalue]
      simp [hfirst.not_proper]
  · intro err
    rcases value_cases e with ⟨hall, hvalue⟩ | ⟨err', hfirst, hvalue⟩
    · rw [hvalue]
      simp only [reduceCtorEq, false_iff]
      exact fun hfirst => hfirst.not_proper hall
    · rw [hvalue]
      constructor
      · rintro ⟨⟩
        exact hfirst
      · intro hfirst'
        rw [hfirst.unique hfirst']
  · rintro n hn ⟨err, hn'⟩
    rcases value_cases e with ⟨hall, -⟩ | ⟨err', -, hvalue⟩
    · -- the node that breaks in the part is a node of the whole
      rcases value_cases n with ⟨-, hvalue⟩ | ⟨err', hfirst, -⟩
      · rw [hn'] at hvalue
        cases hvalue
      · exact absurd (fun m hm => hall m (nodes_subset hn hm)) hfirst.not_proper
    · exact ⟨err', hvalue⟩

end Expr
end ChatAssistant
