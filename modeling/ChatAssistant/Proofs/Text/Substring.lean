import ChatAssistant.Text.Substring

/-!
# Phrases in texts put together

A phrase that stands in a text made of two parts may lie across the seam.  It does not if the second
part starts with a character that the phrase lacks, and then both parts can be searched, and their
phrases replaced, on their own.

The lemmas on `containsAny` let two tables of phrases be compared: whatever is found by one table is
found by every larger one.

* `Seam` — no occurrence of the phrase goes on into the text;
* `contains_append`, `replaceAll_append` — two parts on their own;
* `mem_foldl_replaceAll`, `mem_of_mem_foldl_replaceAll` — what is kept, and what can be new;
* `contains_between`, `foldl_replaceAll_around` — parts that have nothing to do with the phrases.
-/

namespace ChatAssistant
namespace Text

variable {phrase new front s t back piece : Text} {c : Char}

/-- What is made of characters of a kind and what is made of others have none in common. -/
theorem not_mem_of_forall {q : Char → Bool} (hs : ∀ c ∈ s, q c = true)
    (ht : ∀ c ∈ t, q c = false) : ∀ c ∈ s, c ∉ t := by
  intro c hc hmem
  have hkind := hs c hc
  rw [ht c hmem] at hkind
  cases hkind

/-- No occurrence of `phrase` that starts in front of `t` goes on into it. -/
def Seam (phrase t : Text) : Prop := ∀ c ∈ t.head?, c ∉ phrase

theorem isPrefixOf_append (h : Seam phrase t) :
    phrase.isPrefixOf (s ++ t) = phrase.isPrefixOf s := by
  induction phrase generalizing s with
  | nil => rfl
  | cons p phrase ih =>
      have hrest : Seam phrase t := fun c hc hmem => h c hc (List.mem_cons_of_mem p hmem)
      cases s with
      | cons c s => simp only [List.cons_append, List.isPrefixOf_cons_cons, ih hrest]
      | nil =>
          cases t with
          | nil => rfl
          | cons c t =>
              have hne : (p == c) = false := by
                rw [beq_eq_false_iff_ne]
                rintro rfl
                exact h p rfl List.mem_cons_self
              show (p :: phrase).isPrefixOf (c :: t) = false
              rw [List.isPrefixOf_cons_cons, hne, Bool.false_and]

/-! ## Searching -/

/-- A phrase with a character that the text lacks does not stand in it. -/
theorem contains_eq_false_of_not_mem {p : Char} (hp : p ∈ phrase) (hs : p ∉ s) :
    contains phrase s = false := by
  rw [Bool.eq_false_iff]
  intro h
  exact hs ((contains_iff.1 h).subset hp)

theorem contains_append (h : Seam phrase t) :
    contains phrase (s ++ t) = (contains phrase s || contains phrase t) := by
  induction s with
  | nil =>
      cases hphrase : phrase with
      | cons p phrase => rfl
      | nil =>
          cases t with
          | nil => rfl
          | cons c t => rfl
  | cons c s ih =>
      rw [List.cons_append, contains, contains, ih, ← List.cons_append, isPrefixOf_append h,
        Bool.or_assoc]

/-- A phrase does not start with a character that it lacks. -/
theorem isPrefixOf_cons_of_not_mem (hne : phrase ≠ []) (hc : c ∉ phrase) (s : Text) :
    phrase.isPrefixOf (c :: s) = false := by
  cases phrase with
  | nil => exact absurd rfl hne
  | cons p phrase =>
      have hp : (p == c) = false := by
        rw [beq_eq_false_iff_ne]
        rintro rfl
        exact hc List.mem_cons_self
      rw [List.isPrefixOf_cons_cons, hp, Bool.false_and]

theorem contains_free_append (hne : phrase ≠ []) (hfront : ∀ c ∈ front, c ∉ phrase) (s : Text) :
    contains phrase (front ++ s) = contains phrase s := by
  induction front with
  | nil => rfl
  | cons c front ih =>
      rw [List.cons_append, contains,
        isPrefixOf_cons_of_not_mem hne (hfront c List.mem_cons_self), Bool.false_or]
      exact ih fun d hd => hfront d (List.mem_cons_of_mem _ hd)

/-- An occurrence of a phrase lies behind a character of the text, in front of it or over it. -/
theorem occurrence_cases {before behind : Text}
    (h : front ++ c :: back = before ++ (phrase ++ behind)) :
    (∃ m, before = front ++ c :: m ∧ back = m ++ (phrase ++ behind)) ∨
      (∃ m, front = before ++ (phrase ++ m) ∧ behind = m ++ c :: back) ∨
      ∃ x y, phrase = x ++ c :: y ∧ front = before ++ x ∧ back = y ++ behind := by
  -- the occurrence starts in front of the character or at it
  have hover {x : Text} (hx : front = before ++ x) (htail : phrase ++ behind = x ++ c :: back) :
      (∃ m, front = before ++ (phrase ++ m) ∧ behind = m ++ c :: back) ∨
        ∃ x y, phrase = x ++ c :: y ∧ front = before ++ x ∧ back = y ++ behind := by
    rcases List.append_eq_append_iff.1 htail with ⟨m, rfl, hbehind⟩ | ⟨m, rfl, hback⟩
    · exact .inl ⟨m, hx, hbehind⟩
    · cases m with
      | nil => exact .inl ⟨[], by simpa using hx, by simpa using hback.symm⟩
      | cons d y =>
          cases hback
          exact .inr ⟨x, y, rfl, hx, rfl⟩
  rcases List.append_eq_append_iff.1 h with ⟨m, rfl, hm⟩ | ⟨x, hx, hm⟩
  · cases m with
    | nil => exact .inr (hover (x := []) (by simp) hm.symm)
    | cons d m =>
        cases hm
        exact .inl ⟨m, rfl, rfl⟩
  · exact .inr (hover hx hm)

/-- A phrase does not reach into a text that lacks its last character. -/
theorem isInfix_append_iff_of_getLast? (hne : phrase ≠ []) (h : ∀ c ∈ phrase.getLast?, c ∉ t) :
    phrase <:+: s ++ t ↔ phrase <:+: s := by
  have hlast : ∃ c ∈ phrase.getLast?, c ∈ phrase :=
    ⟨phrase.getLast hne, List.getLast?_eq_some_getLast hne, List.getLast_mem hne⟩
  constructor
  · intro hin
    rcases List.infix_append_iff.1 hin with hin | hin | ⟨u, v, rfl, hu, hv⟩
    · exact hin
    · obtain ⟨c, hc, hmem⟩ := hlast
      exact absurd (hin.subset hmem) (h c hc)
    · rcases List.eq_nil_or_concat v with rfl | ⟨v, c, rfl⟩
      · simpa using hu.isInfix
      · exact absurd (hv.subset (by simp)) (h c (by simp))
  · exact fun hin => hin.trans (List.prefix_append _ _).isInfix

/-- A phrase is looked for in vain where none of its characters stands. -/
theorem contains_between (hne : phrase ≠ []) (hfront : ∀ c ∈ front, c ∉ phrase)
    (hback : ∀ c ∈ back, c ∉ phrase) (s : Text) :
    contains phrase (front ++ (s ++ back)) = contains phrase s := by
  have hseam : Seam phrase back := fun c hc => hback c (List.mem_of_mem_head? hc)
  have hnone : contains phrase back = false := by
    obtain ⟨p, hp⟩ := List.exists_mem_of_ne_nil phrase hne
    exact contains_eq_false_of_not_mem hp fun hmem => hback p hmem hp
  rw [contains_free_append hne hfront, contains_append hseam, hnone, Bool.or_false]

/-! ## Tables of phrases -/

section Tables

variable {phrases more : List Text}

theorem containsAny_iff : containsAny phrases s = true ↔ ∃ p ∈ phrases, contains p s = true := by
  simp [containsAny]

theorem containsAny_of_mem (hp : phrase ∈ phrases) (h : contains phrase s = true) :
    containsAny phrases s = true :=
  containsAny_iff.2 ⟨phrase, hp, h⟩

theorem containsAny_mono (hsub : phrases ⊆ more) (h : containsAny phrases s = true) :
    containsAny more s = true := by
  rcases containsAny_iff.1 h with ⟨p, hp, hs⟩
  exact containsAny_of_mem (hsub hp) hs

theorem containsAny_eq_false (hsub : phrases ⊆ more) (h : containsAny more s = false) :
    containsAny phrases s = false := by
  rw [Bool.eq_false_iff] at h ⊢
  exact fun hs => h (containsAny_mono hsub hs)

theorem contains_eq_false (hp : phrase ∈ more) (h : containsAny more s = false) :
    contains phrase s = false := by
  rw [Bool.eq_false_iff] at h ⊢
  exact fun hs => h (containsAny_of_mem hp hs)

theorem containsAny_append :
    containsAny (phrases ++ more) s = (containsAny phrases s || containsAny more s) := by
  simp [containsAny]

/-- Tables that are looked for phrase by phrase give the same. -/
theorem containsAny_congr (h : ∀ p ∈ phrases, contains p s = contains p t) :
    containsAny phrases s = containsAny phrases t := by
  rw [Bool.eq_iff_iff, containsAny_iff, containsAny_iff]
  exact exists_congr fun p => and_congr_right fun hp => by rw [h p hp]

end Tables

/-! ## Replacing -/

theorem length_le_of_isPrefixOf (h : phrase.isPrefixOf s = true) : phrase.length ≤ s.length :=
  (List.isPrefixOf_iff_prefix.1 h).length_le

theorem replaceFrom_append (h : Seam phrase t) {k : Nat} (hk : k ≤ s.length) :
    replaceFrom phrase new k (s ++ t) =
      replaceFrom phrase new k s ++ replaceFrom phrase new 0 t := by
  induction s generalizing k with
  | nil =>
      obtain rfl : k = 0 := Nat.le_zero.1 hk
      rfl
  | cons c s ih =>
      cases k with
      | succ k => exact ih (Nat.le_of_succ_le_succ hk)
      | zero =>
          have hsame : phrase.isPrefixOf (c :: (s ++ t)) = phrase.isPrefixOf (c :: s) :=
            isPrefixOf_append (s := c :: s) h
          rw [List.cons_append, replaceFrom, replaceFrom, hsame]
          split
          · rename_i hprefix
            have hlen : phrase.length - 1 ≤ s.length := by
              have hlen' := length_le_of_isPrefixOf hprefix
              rw [List.length_cons] at hlen'
              omega
            rw [ih hlen, List.append_assoc]
          · rw [ih (Nat.zero_le _), List.cons_append]

theorem replaceAll_append (h : Seam phrase t) (s : Text) :
    replaceAll phrase new (s ++ t) = replaceAll phrase new s ++ replaceAll phrase new t :=
  replaceFrom_append h (Nat.zero_le _)

theorem replaceAll_free_append (hne : phrase ≠ []) (hfront : ∀ c ∈ front, c ∉ phrase) (s : Text) :
    replaceAll phrase new (front ++ s) = front ++ replaceAll phrase new s := by
  induction front with
  | nil => rfl
  | cons c front ih =>
      have hstart := isPrefixOf_cons_of_not_mem hne (hfront c List.mem_cons_self) (front ++ s)
      have hrest := ih fun d hd => hfront d (List.mem_cons_of_mem _ hd)
      unfold replaceAll at *
      rw [List.cons_append, replaceFrom, hstart, if_neg (by decide), hrest, List.cons_append]

/-- Behind an occurrence at the front stands everything that the phrase lacks. -/
theorem mem_drop_of_isPrefixOf (h : phrase.isPrefixOf s = true) (hc : c ∉ phrase) (hs : c ∈ s) :
    c ∈ s.drop phrase.length := by
  obtain ⟨behind, rfl⟩ := List.isPrefixOf_iff_prefix.1 h
  rw [List.drop_left]
  exact (List.mem_append.1 hs).resolve_left hc

/-- A character that the phrase lacks is not replaced. -/
theorem mem_replaceFrom (hne : phrase ≠ []) (hc : c ∉ phrase) {k : Nat} (h : c ∈ s.drop k) :
    c ∈ replaceFrom phrase new k s := by
  induction s generalizing k with
  | nil => simp at h
  | cons d s ih =>
      cases k with
      | succ k => exact ih h
      | zero =>
          rw [replaceFrom]
          split
          · -- it stands behind the occurrence, which is skipped
            rename_i hprefix
            have hbehind := mem_drop_of_isPrefixOf hprefix hc h
            have hlen : phrase.length = phrase.length - 1 + 1 := by
              have hpos := List.length_pos_iff.2 hne
              omega
            rw [hlen] at hbehind
            exact List.mem_append_right _ (ih hbehind)
          · rcases List.mem_cons.1 h with rfl | h
            · exact List.mem_cons_self
            · exact List.mem_cons_of_mem _ (ih h)

theorem mem_of_mem_replaceFrom {k : Nat} (h : c ∈ replaceFrom phrase new k s) :
    c ∈ new ∨ c ∈ s := by
  induction s generalizing k with
  | nil => cases h
  | cons d s ih =>
      have hrest {k : Nat} (h : c ∈ replaceFrom phrase new k s) : c ∈ new ∨ c ∈ d :: s :=
        (ih h).imp_right (List.mem_cons_of_mem d)
      cases k with
      | succ k => exact hrest h
      | zero =>
          rw [replaceFrom] at h
          split at h
          · rcases List.mem_append.1 h with h | h
            · exact .inl h
            · exact hrest h
          · rcases List.mem_cons.1 h with rfl | h
            · exact .inr List.mem_cons_self
            · exact hrest h

/-- Phrases are replaced one after the other, and what none of them has in it is kept. -/
theorem mem_foldl_replaceAll {operators : List (Text × Text)} (hne : ∀ w ∈ operators, w.1 ≠ [])
    (hc : ∀ w ∈ operators, c ∉ w.1) (h : c ∈ s) :
    c ∈ operators.foldl (fun t w => replaceAll w.1 w.2 t) s := by
  induction operators generalizing s with
  | nil => exact h
  | cons w operators ih =>
      exact ih (fun w' hw' => hne w' (List.mem_cons_of_mem _ hw'))
        (fun w' hw' => hc w' (List.mem_cons_of_mem _ hw'))
        (mem_replaceFrom (hne w List.mem_cons_self) (hc w List.mem_cons_self) (k := 0) h)

/-- What stands in the text afterwards was there before, or one of the replacements has it. -/
theorem mem_of_mem_foldl_replaceAll {operators : List (Text × Text)}
    (h : c ∈ operators.foldl (fun t w => replaceAll w.1 w.2 t) s) :
    (∃ w ∈ operators, c ∈ w.2) ∨ c ∈ s := by
  induction operators generalizing s with
  | nil => exact .inr h
  | cons w operators ih =>
      rcases ih h with ⟨w', hw', hmem⟩ | hmem
      · exact .inl ⟨w', List.mem_cons_of_mem _ hw', hmem⟩
      · rcases mem_of_mem_replaceFrom hmem with hnew | hold
        · exact .inl ⟨w, List.mem_cons_self, hnew⟩
        · exact .inr hold

/-- A piece that has nothing to do with the phrases divides a text in which they are replaced, one
after the other. -/
theorem foldl_replaceAll_around {operators : List (Text × Text)}
    (hne : ∀ w ∈ operators, w.1 ≠ []) (hpiece : piece ≠ [])
    (hfree : ∀ w ∈ operators, ∀ c ∈ piece, c ∉ w.1) (s t : Text) :
    operators.foldl (fun t w => replaceAll w.1 w.2 t) (s ++ (piece ++ t)) =
      operators.foldl (fun t w => replaceAll w.1 w.2 t) s ++
        (piece ++ operators.foldl (fun t w => replaceAll w.1 w.2 t) t) := by
  induction operators generalizing s t with
  | nil => rfl
  | cons w operators ih =>
      have hw := hfree w List.mem_cons_self
      have hseam : Seam w.1 (piece ++ t) := by
        intro c hc
        cases piece with
        | nil => exact absurd rfl hpiece
        | cons d piece =>
            cases hc
            exact hw c List.mem_cons_self
      have hfirst : replaceAll w.1 w.2 (s ++ (piece ++ t)) =
          replaceAll w.1 w.2 s ++ (piece ++ replaceAll w.1 w.2 t) := by
        rw [replaceAll_append hseam, replaceAll_free_append (hne w List.mem_cons_self) hw]
      rw [List.foldl_cons, List.foldl_cons, List.foldl_cons, hfirst]
      exact ih (fun w' hw' => hne w' (List.mem_cons_of_mem _ hw'))
        (fun w' hw' => hfree w' (List.mem_cons_of_mem _ hw')) _ _

end Text
end ChatAssistant
