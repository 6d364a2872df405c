import ChatAssistant.Proofs.Question.Extraction

/-!
# Expressions are parts of questions

Whichever way an expression is found, it is a part of the question with its words replaced.
Replacing them takes nothing away but blanks and the letters of words, and brings no digits in.

* `mem_replaceWords`, `hasDigit_of_replaceWords` — what replacing the words keeps, and does not add;
* `extract?_cases` — where what is found comes from;
* `extract?_isInfix` — it is a part of the question.
-/

namespace ChatAssistant

namespace Text

variable {phrase s rest : Text} {α : Type} {step : Text → Option α} {a : α}

/-- What follows a phrase is the end of the text. -/
theorem isSuffix_of_dropPhrase? (h : dropPhrase? phrase s = some rest) : rest <:+ s := by
  induction phrase generalizing s with
  | nil =>
      rw [dropPhrase?] at h
      exact Option.some.inj h ▸ List.suffix_rfl
  | cons p phrase ih =>
      cases s with
      | nil => cases h
      | cons c s =>
          rw [dropPhrase?] at h
          split at h
          · exact (ih h).trans (List.suffix_cons c s)
          · cases h

theorem exists_isSuffix_of_findFirst? (h : findFirst? step s = some a) :
    ∃ t, t <:+ s ∧ step t = some a := by
  induction s with
  | nil => exact ⟨[], List.suffix_rfl, h⟩
  | cons c s ih =>
      rw [findFirst?, Option.or_eq_some_iff] at h
      rcases h with h | ⟨-, h⟩
      · exact ⟨c :: s, List.suffix_rfl, h⟩
      · obtain ⟨t, ht, hstep⟩ := ih h
        exact ⟨t, ht.trans (List.suffix_cons c s), hstep⟩

end Text

namespace Question

variable {c d : Char} {s part x : Text}

/-! ## Candidates -/

theorem Trigger.isInfix_of_announcedAt? (t : Trigger) (h : t.announcedAt? s = some part) :
    part <:+: s := by
  unfold Trigger.announcedAt? at h
  cases hrest : Text.dropPhrase? t.phrase s with
  | none =>
      rw [hrest] at h
      cases h
  | some rest =>
      have hbehind : rest <:+: s := (Text.isSuffix_of_dropPhrase? hrest).isInfix
      simp only [hrest, Option.bind_eq_bind, Option.bind_some] at h
      split at h
      · cases h
      · rename_i last hlast
        split at h
        · obtain rfl := Option.some.inj h
          exact (List.takeWhile_prefix _).isInfix.trans
            ((List.dropWhile_suffix _).isInfix.trans hbehind)
        · split at h
          · -- the last of the blanks
            obtain rfl := Option.some.inj h
            obtain ⟨front, hfront⟩ := List.getLast?_eq_some_iff.1 hlast
            have hend : [last] <:+ rest.takeWhile Text.isBlank := ⟨front, hfront.symm⟩
            exact hend.isInfix.trans ((List.takeWhile_prefix _).isInfix.trans hbehind)
          · cases h

theorem Trigger.isInfix_of_announced? (t : Trigger) (h : t.announced? s = some part) :
    part <:+: s := by
  obtain ⟨r, hr, hat⟩ := Text.exists_isSuffix_of_findFirst? h
  exact (t.isInfix_of_announcedAt? hat).trans hr.isInfix

theorem isInfix_of_runBeforeEquals? (h : runBeforeEquals? s = some part) : part <:+: s := by
  fun_induction runBeforeEquals? s with
  | case1 => cases h
  | case2 s c r hs run rest hrun =>
      obtain rfl := Option.some.inj h
      have hfront : run <+: c :: r := List.prefix_cons_inj c |>.2 (List.takeWhile_prefix _)
      exact hfront.isInfix.trans (hs ▸ (List.dropWhile_suffix _).isInfix)
  | case3 s c r hs run rest hrun ih =>
      have hbehind : rest <:+ c :: r := (List.dropWhile_suffix _).trans (List.suffix_cons c r)
      exact (ih h).trans (hbehind.isInfix.trans (hs ▸ (List.dropWhile_suffix _).isInfix))

/-- What is chosen in a search that keeps its best or takes the next is one of the texts. -/
theorem mem_of_foldl {step : Option Text → Text → Option Text}
    (hstep : ∀ best t x, step best t = some x → best = some x ∨ x = t) {texts : List Text}
    {best : Option Text} (h : texts.foldl step best = some x) : best = some x ∨ x ∈ texts := by
  induction texts generalizing best with
  | nil => exact .inl h
  | cons t texts ih =>
      rcases ih h with hbest | hmem
      · rcases hstep best t x hbest with hkept | rfl
        · exact .inl hkept
        · exact .inr List.mem_cons_self
      · exact .inr (List.mem_cons_of_mem t hmem)

theorem mem_of_longest? {texts : List Text} (h : longest? texts = some x) : x ∈ texts := by
  unfold longest? at h
  refine (mem_of_foldl ?_ h).resolve_left (by simp)
  intro best t x hx
  cases best with
  | none => exact .inr (Option.some.inj hx).symm
  | some b =>
      dsimp only at hx
      split at hx
      · exact .inr (Option.some.inj hx).symm
      · exact .inl hx

theorem isInfix_of_longestRun? (h : longestRun? s = some part) : part <:+: s := by
  have hmem := mem_of_longest? h
  obtain ⟨run, hrun, rfl⟩ := List.mem_map.1 (List.mem_of_mem_filter hmem)
  exact (Text.stripWhile_isInfix _ run).trans (Text.runs_isInfix hrun)

/-! ## Replacing words -/

/-- What is no blank and in no word operator is kept, in lower case. -/
theorem mem_replaceWords (hd : d ∈ Text.lowercase part) (hblank : Text.isBlank d = false)
    (hsigma : d ∉ ['ς', 'σ']) (hwords : ∀ w ∈ wordOperators, d ∉ w.1) :
    d ∈ replaceWords part := by
  have hne : ∀ w ∈ wordOperators, w.1 ≠ [] := by decide
  obtain ⟨c, hc, hform⟩ := Text.exists_mem_of_mem_lowercase hd
  -- the form does not depend on the neighbours, which trimming changes
  have hcapital : c ≠ Text.capitalSigma := by
    rintro rfl
    exact hsigma hform
  have hc' : Text.isBlank c = false := by
    rw [Bool.eq_false_iff]
    intro hblank'
    rw [Text.forms_of_stays (Text.stays_of_isBlank hblank')] at hform
    obtain rfl := List.mem_singleton.1 hform
    rw [hblank] at hblank'
    cases hblank'
  have hlower : d ∈ Text.lowercase (Text.trim part) :=
    Text.mem_lowercase (Text.mem_stripWhile hc' hc) hcapital hform
  have hpadded : d ∈ ' ' :: Text.lowercase (Text.trim part) ++ [' '] :=
    List.mem_append_left _ (List.mem_cons_of_mem _ hlower)
  exact (Text.mem_collapse_iff hblank).2 (Text.mem_foldl_replaceAll hne hwords hpadded)

/-- Replacing words brings no digits in. -/
theorem hasDigit_of_replaceWords (h : Text.hasDigit (replaceWords part) = true) :
    Text.hasDigit part = true := by
  have hsigns : ∀ w ∈ wordOperators, ∀ d ∈ w.2, Text.isDigit d = false := by decide
  obtain ⟨d, hd, hdigit⟩ := List.any_eq_true.1 h
  have hpadded := Text.mem_of_mem_foldl_replaceAll
    ((Text.mem_collapse_iff (isBlank_of_isDigit hdigit)).1 hd)
  -- neither the signs nor the padding can have brought it in
  rcases hpadded with ⟨w, hw, hmem⟩ | hmem
  · rw [hsigns w hw d hmem] at hdigit
    cases hdigit
  · have hlower : d ∈ Text.lowercase (Text.trim part) := by
      rcases List.mem_append.1 hmem with hmem | hmem
      · rcases List.mem_cons.1 hmem with rfl | hmem
        · exact absurd hdigit (by decide)
        · exact hmem
      · obtain rfl := List.mem_singleton.1 hmem
        exact absurd hdigit (by decide)
    have htrim := Text.mem_of_isDigit_of_mem_lowercase hlower hdigit
    exact List.any_eq_true.2 ⟨d, Text.mem_of_mem_stripWhile htrim, hdigit⟩

/-! ## What is found -/

theorem eq_of_withDigit? (h : withDigit? part = some x) :
    x = replaceWords part ∧ Text.hasDigit x = true := by
  unfold withDigit? at h
  dsimp only at h
  split at h
  · rename_i hdigit
    obtain rfl := Option.some.inj h
    exact ⟨rfl, hdigit⟩
  · cases h

/-- What is found was announced by a phrase, or it is a run. -/
theorem extract?_cases (h : extract? s = some x) :
    (∃ t ∈ triggers, ∃ part, t.announced? s = some part ∧ withDigit? part = some x) ∨
      ∃ part, (runBeforeEquals? s = some part ∨ longestRun? s = some part) ∧
        x = replaceWords part := by
  unfold extract? at h
  rw [Option.or_eq_some_iff, Option.or_eq_some_iff] at h
  rcases h with h | ⟨-, h | ⟨-, h⟩⟩
  · obtain ⟨t, ht, hat⟩ := List.exists_of_findSome?_eq_some h
    exact .inl ⟨t, ht, Option.bind_eq_some_iff.1 hat⟩
  · obtain ⟨part, hpart, hx⟩ := Option.bind_eq_some_iff.1 h
    exact .inr ⟨part, .inl hpart, (eq_of_withDigit? hx).1⟩
  · obtain ⟨part, hpart, hx⟩ := Option.map_eq_some_iff.1 h
    exact .inr ⟨part, .inr hpart, hx.symm⟩

/-- The expression of a question is a part of it with its words replaced. -/
theorem extract?_isInfix (h : extract? s = some x) :
    ∃ part : Text, part <:+: s ∧ x = replaceWords part := by
  rcases extract?_cases h with ⟨t, -, part, hpart, hx⟩ | ⟨part, hpart | hpart, rfl⟩
  · exact ⟨part, t.isInfix_of_announced? hpart, (eq_of_withDigit? hx).1⟩
  · exact ⟨part, isInfix_of_runBeforeEquals? hpart, rfl⟩
  · exact ⟨part, isInfix_of_longestRun? hpart, rfl⟩

end Question
end ChatAssistant
