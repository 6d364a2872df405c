import ChatAssistant.Proofs.Expr.Grammar

/-!
# Each list of tokens has at most one derivation

Two derivations of the same nonterminal are compared from the left.  Where both are followed by
something that cannot carry them on, they take the same tokens off the front and are equal; so the
main statement, `Sum.eq_of_tokens_eq`, is the case in which nothing follows.

The comparison goes by the structure of the first derivation.  The second one has the same
constructor because its first token says so, or because of what follows.
-/

namespace ChatAssistant
namespace Expr
namespace Grammar

/-! ## First tokens -/

/-- No primary starts with a sign. -/
theorem Primary.tokens_ne_sign (d : Primary) (s : Sign) {rest r : List Token} :
    d.tokens ++ rest ≠ s.token :: r := by
  cases d <;> cases s <;> simp [Primary.tokens, Sign.token]

theorem Power.tokens_ne_sign (d : Power) (s : Sign) {rest r : List Token} :
    d.tokens ++ rest ≠ s.token :: r := by
  cases d with
  | plain base => exact base.tokens_ne_sign s
  | raised base exponent =>
      rw [Power.tokens, List.append_assoc]
      exact base.tokens_ne_sign s

theorem Sign.token_injective {s s' : Sign} (h : s.token = s'.token) : s = s' := by
  cases s <;> cases s' <;> simp_all [Sign.token]

theorem Factor.token_injective {f f' : Factor} (h : f.token = f'.token) : f = f' := by
  cases f <;> cases f' <;> simp_all [Factor.token]

/-- Tokens that cannot carry on a sum do not start with a sign. -/
theorem Sign.ne_of_stopsAt (s : Sign) {r rest : List Token} (hr : StopsAt Sum.extenders r) :
    r ≠ s.token :: rest := by
  rintro rfl
  rw [stopsAt_cons] at hr
  cases s <;> exact hr (by decide)

theorem Factor.ne_of_stopsAt (f : Factor) {r rest : List Token}
    (hr : StopsAt Product.extenders r) : r ≠ f.token :: rest := by
  rintro rfl
  rw [stopsAt_cons] at hr
  cases f <;> exact hr (by decide)

/-- Tokens that cannot carry on an operand do not start with a power sign. -/
theorem ne_caret_of_stopsAt {r rest : List Token} (hr : StopsAt Signed.extenders r) :
    r ≠ .caret :: rest := by
  rintro rfl
  rw [stopsAt_cons] at hr
  exact hr (by decide)

/-! ## Comparing derivations -/

mutual

theorem Sum.unique (d d' : Sum) {r r' : List Token} (hr : StopsAt Sum.extenders r)
    (hr' : StopsAt Sum.extenders r') (h : d.tokens ++ r = d'.tokens ++ r') : d = d' ∧ r = r' := by
  match d, d' with
  | .mk head tail, .mk head' tail' =>
      simp only [Sum.tokens, List.append_assoc] at h
      rcases head.unique head' (tail.stopsAt hr) (tail'.stopsAt hr') h with ⟨rfl, ht⟩
      rcases tail.unique tail' hr hr' ht with ⟨rfl, rfl⟩
      exact ⟨rfl, rfl⟩

theorem SumTail.unique (d d' : SumTail) {r r' : List Token} (hr : StopsAt Sum.extenders r)
    (hr' : StopsAt Sum.extenders r') (h : d.tokens ++ r = d'.tokens ++ r') : d = d' ∧ r = r' := by
  match d, d' with
  | .nil, .nil => exact ⟨rfl, h⟩
  | .nil, .cons sign _ _ => exact absurd h (sign.ne_of_stopsAt hr)
  | .cons sign _ _, .nil => exact absurd h.symm (sign.ne_of_stopsAt hr')
  | .cons sign operand tail, .cons sign' operand' tail' =>
      simp only [SumTail.tokens, List.cons_append, List.append_assoc, List.cons.injEq] at h
      rcases h with ⟨hs, h⟩
      obtain rfl := Sign.token_injective hs
      -- Neither operand can be carried on by the rest of its own sum.
      rcases operand.unique operand' (tail.stopsAt hr) (tail'.stopsAt hr') h with ⟨rfl, ht⟩
      rcases tail.unique tail' hr hr' ht with ⟨rfl, rfl⟩
      exact ⟨rfl, rfl⟩

theorem Product.unique (d d' : Product) {r r' : List Token} (hr : StopsAt Product.extenders r)
    (hr' : StopsAt Product.extenders r') (h : d.tokens ++ r = d'.tokens ++ r') :
    d = d' ∧ r = r' := by
  match d, d' with
  | .mk head tail, .mk head' tail' =>
      simp only [Product.tokens, List.append_assoc] at h
      rcases head.unique head' (tail.stopsAt hr) (tail'.stopsAt hr') h with ⟨rfl, ht⟩
      rcases tail.unique tail' hr hr' ht with ⟨rfl, rfl⟩
      exact ⟨rfl, rfl⟩

theorem ProductTail.unique (d d' : ProductTail) {r r' : List Token}
    (hr : StopsAt Product.extenders r) (hr' : StopsAt Product.extenders r')
    (h : d.tokens ++ r = d'.tokens ++ r') : d = d' ∧ r = r' := by
  match d, d' with
  | .nil, .nil => exact ⟨rfl, h⟩
  | .nil, .cons factor _ _ => exact absurd h (factor.ne_of_stopsAt hr)
  | .cons factor _ _, .nil => exact absurd h.symm (factor.ne_of_stopsAt hr')
  | .cons factor operand tail, .cons factor' operand' tail' =>
      simp only [ProductTail.tokens, List.cons_append, List.append_assoc, List.cons.injEq] at h
      rcases h with ⟨hf, h⟩
      obtain rfl := Factor.token_injective hf
      rcases operand.unique operand' (tail.stopsAt hr) (tail'.stopsAt hr') h with ⟨rfl, ht⟩
      rcases tail.unique tail' hr hr' ht with ⟨rfl, rfl⟩
      exact ⟨rfl, rfl⟩

theorem Signed.unique (d d' : Signed) {r r' : List Token} (hr : StopsAt Signed.extenders r)
    (hr' : StopsAt Signed.extenders r') (h : d.tokens ++ r = d'.tokens ++ r') :
    d = d' ∧ r = r' := by
  match d, d' with
  | .sign sign operand, .sign sign' operand' =>
      simp only [Signed.tokens, List.cons_append, List.cons.injEq] at h
      rcases h with ⟨hs, h⟩
      obtain rfl := Sign.token_injective hs
      rcases operand.unique operand' hr hr' h with ⟨rfl, rfl⟩
      exact ⟨rfl, rfl⟩
  | .sign sign _, .power power => exact absurd h.symm (power.tokens_ne_sign sign)
  | .power power, .sign sign _ => exact absurd h (power.tokens_ne_sign sign)
  | .power power, .power power' =>
      rcases power.unique power' hr hr' h with ⟨rfl, rfl⟩
      exact ⟨rfl, rfl⟩

theorem Power.unique (d d' : Power) {r r' : List Token} (hr : StopsAt Signed.extenders r)
    (hr' : StopsAt Signed.extenders r') (h : d.tokens ++ r = d'.tokens ++ r') :
    d = d' ∧ r = r' := by
  match d, d' with
  | .plain base, .plain base' =>
      rcases base.unique base' h with ⟨rfl, rfl⟩
      exact ⟨rfl, rfl⟩
  | .plain base, .raised base' exponent' =>
      -- The bases agree, and what follows the first one would be a power sign.
      simp only [Power.tokens, List.append_assoc, List.cons_append] at h
      rcases base.unique base' h with ⟨_, ht⟩
      exact absurd ht (ne_caret_of_stopsAt hr)
  | .raised base exponent, .plain base' =>
      simp only [Power.tokens, List.append_assoc, List.cons_append] at h
      rcases base.unique base' h with ⟨_, ht⟩
      exact absurd ht.symm (ne_caret_of_stopsAt hr')
  | .raised base exponent, .raised base' exponent' =>
      simp only [Power.tokens, List.append_assoc, List.cons_append] at h
      rcases base.unique base' h with ⟨rfl, ht⟩
      rcases exponent.unique exponent' hr hr' (List.cons.inj ht).2 with ⟨rfl, rfl⟩
      exact ⟨rfl, rfl⟩

/-- A primary ends by itself. -/
theorem Primary.unique (d d' : Primary) {r r' : List Token}
    (h : d.tokens ++ r = d'.tokens ++ r') : d = d' ∧ r = r' := by
  match d, d' with
  | .number d, .number d' =>
      simp only [Primary.tokens, List.cons_append, List.nil_append, List.cons.injEq,
        Token.number.injEq] at h
      rcases h with ⟨rfl, rfl⟩
      exact ⟨rfl, rfl⟩
  | .number _, .bracketed _ => simp [Primary.tokens] at h
  | .bracketed _, .number _ => simp [Primary.tokens] at h
  | .bracketed inner, .bracketed inner' =>
      -- Inside the brackets, the closing one is what follows.
      simp only [Primary.tokens, List.cons_append, List.append_assoc, List.cons.injEq, true_and,
        List.nil_append] at h
      rcases inner.unique inner' (stopsAt_rparen r) (stopsAt_rparen r') h with ⟨rfl, ht⟩
      exact ⟨rfl, (List.cons.inj ht).2⟩

end

/-- The derivation of a whole list of tokens is determined by it. -/
theorem Sum.eq_of_tokens_eq {d d' : Sum} (h : d.tokens = d'.tokens) : d = d' := by
  have happ : d.tokens ++ [] = d'.tokens ++ [] := by rw [h]
  exact (d.unique d' (stopsAt_nil _) (stopsAt_nil _) happ).1

end Grammar
end Expr
end ChatAssistant
