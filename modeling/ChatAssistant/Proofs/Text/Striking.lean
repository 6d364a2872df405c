import ChatAssistant.Proofs.Text.Substring
import ChatAssistant.Proofs.Text.Words
import Mathlib.Data.List.Infix
import Mathlib.Logic.Relation

/-!
# Phrases struck out

Where phrases are replaced by a space they are struck out of the text, one occurrence after the
other and one phrase after the other.  `Strikes` is one such step, and what holds for a step holds
for all of them together.

* `struck_strikeAll` — passes of replacing are steps in a row;
* `Struck.pieces` — words are cut into pieces and left out, and never joined;
* `countP_strikeAll_lt` — less is left of a text with a phrase in it;
* `Replaced.not_isInfix` — a phrase without spaces is gone after its own pass.
-/

namespace ChatAssistant
namespace Text

variable {phrase new s t x : Text} {phrases more : List Text} {c : Char}

/-! ## One pass -/

theorem replaceFrom_eq_replaceAll (phrase new : Text) (k : Nat) (s : Text) :
    replaceFrom phrase new k s = replaceAll phrase new (s.drop k) := by
  induction s generalizing k with
  | nil =>
      rw [List.drop_nil]
      cases k with
      | zero => rfl
      | succ k => rfl
  | cons c s ih =>
      cases k with
      | zero => rfl
      | succ k => exact ih k

theorem replaceAll_phrase_append (hne : phrase ≠ []) (new s : Text) :
    replaceAll phrase new (phrase ++ s) = new ++ replaceAll phrase new s := by
  cases phrase with
  | nil => exact absurd rfl hne
  | cons c phrase =>
      have hprefix : (c :: phrase).isPrefixOf (c :: (phrase ++ s)) = true :=
        List.isPrefixOf_iff_prefix.2 (List.prefix_append (c :: phrase) s)
      rw [replaceAll, List.cons_append, replaceFrom, if_pos hprefix, replaceFrom_eq_replaceAll]
      simp

theorem replaceAll_cons (h : ¬ phrase <+: c :: s) (new : Text) :
    replaceAll phrase new (c :: s) = c :: replaceAll phrase new s := by
  have hno : ¬ phrase.isPrefixOf (c :: s) = true := fun hp => h (List.isPrefixOf_iff_prefix.1 hp)
  rw [replaceAll, replaceFrom, if_neg hno]
  rfl

/-- No occurrence of the phrase starts in the text, whatever comes behind it. -/
def Clear (phrase front : Text) : Prop :=
  ∀ x ∈ front.tails, x ≠ [] → ¬ x <+: phrase ∧ ¬ phrase <+: x

instance (phrase front : Text) : Decidable (Clear phrase front) :=
  inferInstanceAs (Decidable (∀ _ ∈ _, _))

theorem Clear.replaceAll_append {front : Text} (h : Clear phrase front) (new s : Text) :
    replaceAll phrase new (front ++ s) = front ++ replaceAll phrase new s := by
  induction front with
  | nil => rfl
  | cons c front ih =>
      have hfirst := h (c :: front) (by simp) (List.cons_ne_nil _ _)
      have hno : ¬ phrase <+: c :: (front ++ s) := by
        intro hprefix
        have hfront : c :: front <+: c :: (front ++ s) := List.prefix_append (c :: front) s
        rcases List.prefix_or_prefix_of_prefix hprefix hfront with hp | hp
        · exact hfirst.2 hp
        · exact hfirst.1 hp
      have hrest : Clear phrase front := fun x hx => h x (by simp [hx])
      rw [List.cons_append, replaceAll_cons hno, ih hrest]
      rfl

/-- The second text is the first one with the occurrences of the phrase replaced. -/
inductive Replaced (phrase new : Text) : Text → Text → Prop where
  | nil : Replaced phrase new [] []
  | found {s t : Text} (h : Replaced phrase new s t) :
      Replaced phrase new (phrase ++ s) (new ++ t)
  | kept {c : Char} {s t : Text} (hno : ¬ phrase <+: c :: s) (h : Replaced phrase new s t) :
      Replaced phrase new (c :: s) (c :: t)

theorem replaced_replaceAll (hne : phrase ≠ []) (new s : Text) :
    Replaced phrase new s (replaceAll phrase new s) := by
  -- an occurrence is passed over as a whole, so the induction is on the length
  induction hlen : s.length using Nat.strong_induction_on generalizing s with
  | _ n ih =>
      subst hlen
      by_cases hprefix : phrase <+: s
      · obtain ⟨behind, rfl⟩ := hprefix
        rw [replaceAll_phrase_append hne]
        have hpos := List.length_pos_iff.2 hne
        exact .found (ih behind.length (by simp; omega) behind rfl)
      · cases s with
        | nil => exact .nil
        | cons c s =>
            rw [replaceAll_cons hprefix]
            exact .kept hprefix (ih s.length (by simp) s rfl)

namespace Replaced

theorem countP_le (h : Replaced phrase [' '] s t) :
    t.countP (!isBlank ·) ≤ s.countP (!isBlank ·) := by
  induction h with
  | nil => exact Nat.le_refl _
  | found h ih =>
      rw [List.countP_append, List.countP_append, List.countP_singleton, isBlank_space]
      simp only [Bool.not_true, Bool.false_eq_true, if_false]
      omega
  | kept hno h ih =>
      rw [List.countP_cons, List.countP_cons]
      omega

theorem countP_lt (hsolid : ∃ c ∈ phrase, isBlank c = false) (h : Replaced phrase [' '] s t)
    (hin : phrase <:+: s) : t.countP (!isBlank ·) < s.countP (!isBlank ·) := by
  have hpos : 0 < phrase.countP (!isBlank ·) := by
    obtain ⟨c, hc, hblank⟩ := hsolid
    exact List.countP_pos_iff.2 ⟨c, hc, by simp [hblank]⟩
  induction h with
  | nil =>
      obtain ⟨c, hc, -⟩ := hsolid
      exact absurd (hin.subset hc) List.not_mem_nil
  | found h ih =>
      have hle := h.countP_le
      rw [List.countP_append, List.countP_append, List.countP_singleton, isBlank_space]
      simp only [Bool.not_true, Bool.false_eq_true, if_false]
      omega
  | kept hno h ih =>
      -- the occurrence is further on
      have hlt := ih ((List.infix_cons_iff.1 hin).resolve_left hno)
      rw [List.countP_cons, List.countP_cons]
      omega

/-- A text without spaces at the front was there before. -/
theorem isPrefix (h : Replaced phrase [' '] s t) (hx : ' ' ∉ x) (hxt : x <+: t) : x <+: s := by
  induction x generalizing s t with
  | nil => exact List.nil_prefix
  | cons c x ih =>
      cases h with
      | nil => exact absurd hxt (by simp)
      | found h =>
          obtain ⟨rfl, -⟩ := List.cons_prefix_cons.1 hxt
          exact absurd List.mem_cons_self hx
      | kept hno h =>
          obtain ⟨rfl, hrest⟩ := List.cons_prefix_cons.1 hxt
          exact List.cons_prefix_cons.2 ⟨rfl, ih h (fun hmem => hx (by simp [hmem])) hrest⟩

/-- No new occurrences of a phrase come up where spaces are put, if there are none in the phrase. -/
theorem not_isInfix (h : Replaced phrase [' '] s t) (hspace : ' ' ∉ phrase) (hne : phrase ≠ []) :
    ¬ phrase <:+: t := by
  induction h with
  | nil => exact fun hin => hne (List.eq_nil_of_infix_nil hin)
  | found h ih =>
      intro hin
      rcases List.infix_cons_iff.1 hin with hin | hin
      · obtain ⟨c, rest, rfl⟩ := List.exists_cons_of_ne_nil hne
        obtain ⟨rfl, -⟩ := List.cons_prefix_cons.1 hin
        exact hspace List.mem_cons_self
      · exact ih hin
  | kept hno h ih =>
      intro hin
      rcases List.infix_cons_iff.1 hin with hin | hin
      · exact hno ((Replaced.kept hno h).isPrefix hspace hin)
      · exact ih hin

end Replaced

/-! ## Strikes -/

/-- An occurrence of one of the phrases gives way to a space. -/
inductive Strikes (phrases : List Text) : Text → Text → Prop where
  | out {p : Text} (hp : p ∈ phrases) (before behind : Text) :
      Strikes phrases (before ++ (p ++ behind)) (before ++ ' ' :: behind)

theorem Strikes.append_left (h : Strikes phrases s t) (front : Text) :
    Strikes phrases (front ++ s) (front ++ t) := by
  cases h with
  | out hp before behind =>
      have hout := Strikes.out hp (front ++ before) behind
      rwa [List.append_assoc, List.append_assoc] at hout

/-- Only spaces come into a text. -/
theorem Strikes.of_mem (h : Strikes phrases s t) (hc : c ∈ t) : c = ' ' ∨ c ∈ s := by
  cases h with
  | out hp before behind =>
      rcases List.mem_append.1 hc with hc | hc
      · exact .inr (List.mem_append_left _ hc)
      · exact (List.mem_cons.1 hc).imp_right fun hc => by simp [hc]

/-- Some phrases are struck out, one after the other. -/
def Struck (phrases : List Text) : Text → Text → Prop := Relation.ReflTransGen (Strikes phrases)

namespace Struck

theorem append_left (h : Struck phrases s t) (front : Text) :
    Struck phrases (front ++ s) (front ++ t) :=
  h.lift (front ++ ·) fun _ _ hstep => hstep.append_left front

/-- What one step keeps is kept. -/
theorem invariant {P : Text → Prop} (hstep : ∀ s t, Strikes phrases s t → P s → P t)
    (h : Struck phrases s t) (hs : P s) : P t := by
  induction h with
  | refl => exact hs
  | tail _ hlast ih => exact hstep _ _ hlast ih

theorem of_mem (h : Struck phrases s t) (hc : c ∈ t) : c = ' ' ∨ c ∈ s := by
  have hall := h.invariant (P := fun t => ∀ c ∈ t, c = ' ' ∨ c ∈ s)
    (fun _ _ hstep hkept c hc => (hstep.of_mem hc).elim .inl (hkept c)) fun c hc => .inr hc
  exact hall c hc

end Struck

theorem Replaced.struck (hp : phrase ∈ phrases) (h : Replaced phrase [' '] s t) :
    Struck phrases s t := by
  induction h with
  | nil => exact .refl
  | @found s t h ih =>
      have hfirst : Strikes phrases (phrase ++ s) ([' '] ++ s) := .out hp [] s
      exact (ih.append_left [' ']).head hfirst
  | @kept c s t hno h ih => exact ih.append_left [c]

/-- The phrases are replaced by a space, one after the other. -/
def strikeAll (phrases : List Text) (s : Text) : Text :=
  phrases.foldl (fun t p => replaceAll p [' '] t) s

theorem strikeAll_concat (phrases : List Text) (phrase s : Text) :
    strikeAll (phrases ++ [phrase]) s = replaceAll phrase [' '] (strikeAll phrases s) := by
  rw [strikeAll, List.foldl_append]
  rfl

/-- Replacing the phrases one after the other strikes them out. -/
theorem struck_strikeAll (hne : ∀ p ∈ phrases, p ≠ []) (s : Text) :
    Struck phrases s (strikeAll phrases s) := by
  -- each pass strikes out one phrase, and they are all in the whole table
  have hpasses {more : List Text} (hmore : ∀ p ∈ more, p ∈ phrases) (s : Text) :
      Struck phrases s (strikeAll more s) := by
    induction more generalizing s with
    | nil => exact .refl
    | cons p more ih =>
        have hp : p ∈ phrases := hmore p List.mem_cons_self
        have hfirst := (replaced_replaceAll (hne p hp) [' '] s).struck hp
        exact hfirst.trans (ih (fun q hq => hmore q (List.mem_cons_of_mem _ hq)) _)
  exact hpasses (fun _ hp => hp) s

theorem strikeAll_of_not_containsAny (h : containsAny phrases s = false) :
    strikeAll phrases s = s := by
  induction phrases with
  | nil => rfl
  | cons p phrases ih =>
      have hp : contains p s = false := contains_eq_false List.mem_cons_self h
      have hmore : containsAny phrases s = false :=
        containsAny_eq_false (List.subset_cons_self _ _) h
      rw [strikeAll, List.foldl_cons, replaceAll_of_not_contains hp]
      exact ih hmore

theorem countP_strikeAll_le (hne : ∀ p ∈ phrases, p ≠ []) (s : Text) :
    (strikeAll phrases s).countP (!isBlank ·) ≤ s.countP (!isBlank ·) := by
  induction phrases generalizing s with
  | nil => exact Nat.le_refl _
  | cons p phrases ih =>
      have hfirst := (replaced_replaceAll (hne p List.mem_cons_self) [' '] s).countP_le
      exact (ih (fun q hq => hne q (List.mem_cons_of_mem _ hq)) _).trans hfirst

/-- Less is left of a text in which one of the phrases stands. -/
theorem countP_strikeAll_lt (hsolid : ∀ p ∈ phrases, ∃ c ∈ p, isBlank c = false)
    (h : containsAny phrases s = true) :
    (strikeAll phrases s).countP (!isBlank ·) < s.countP (!isBlank ·) := by
  have hne : ∀ p ∈ phrases, p ≠ [] := fun p hp => by
    obtain ⟨c, hc, -⟩ := hsolid p hp
    exact List.ne_nil_of_mem hc
  induction phrases with
  | nil => cases h
  | cons p phrases ih =>
      have hreplaced := replaced_replaceAll (hne p List.mem_cons_self) [' '] s
      have hmore : ∀ q ∈ phrases, q ∈ p :: phrases := fun q hq => List.mem_cons_of_mem _ hq
      rw [strikeAll, List.foldl_cons]
      cases hp : contains p s with
      | true =>
          have hlt := hreplaced.countP_lt (hsolid p List.mem_cons_self) (contains_iff.1 hp)
          exact (countP_strikeAll_le (fun q hq => hne q (hmore q hq)) _).trans_lt hlt
      | false =>
          -- the first pass does nothing, so the phrase is there for a later one
          rw [replaceAll_of_not_contains hp]
          refine ih (fun q hq => hsolid q (hmore q hq)) ?_ fun q hq => hne q (hmore q hq)
          rw [containsAny, List.any_cons, hp, Bool.false_or] at h
          exact h

/-! ## Pieces -/

/-- The second texts are pieces of the first ones, in their order and without overlaps. -/
inductive Pieces : List Text → List Text → Prop where
  | done (ws : List Text) : Pieces ws []
  | next (w : Text) {ws vs : List Text} (h : Pieces ws vs) : Pieces (w :: ws) vs
  | take (front piece rest : Text) {ws vs : List Text} (h : Pieces (rest :: ws) vs) :
      Pieces ((front ++ (piece ++ rest)) :: ws) (piece :: vs)

namespace Pieces

variable {us vs ws us' vs' : List Text} {u v w : Text}

/-- A whole text is a piece of itself. -/
theorem whole (w : Text) (h : Pieces ws vs) : Pieces (w :: ws) (w :: vs) := by
  have htake := take [] w [] (next [] h)
  rwa [List.append_nil, List.nil_append] at htake

theorem refl (ws : List Text) : Pieces ws ws := by
  induction ws with
  | nil => exact .done []
  | cons w ws ih => exact ih.whole w

theorem of_sublist (h : vs.Sublist ws) : Pieces ws vs := by
  induction h with
  | slnil => exact .done []
  | cons w _ ih => exact .next w ih
  | cons_cons w _ ih => exact ih.whole w

theorem append_left (us : List Text) (h : Pieces ws vs) : Pieces (us ++ ws) vs := by
  induction us with
  | nil => exact h
  | cons u us ih => exact .next u ih

theorem append (h : Pieces us vs) (h' : Pieces us' vs') : Pieces (us ++ us') (vs ++ vs') := by
  induction h with
  | done ws => exact h'.append_left ws
  | next w h ih => exact .next w ih
  | take front piece rest h ih => exact .take front piece rest ih

/-- The pieces of a part of the first text. -/
theorem of_part (front : Text) (h : Pieces (w :: ws) vs) : Pieces ((front ++ w) :: ws) vs := by
  cases h with
  | done => exact .done _
  | next _ h => exact .next _ h
  | take before piece rest h =>
      rw [← List.append_assoc]
      exact .take (front ++ before) piece rest h

theorem tail (h : Pieces us (v :: vs)) : Pieces us vs := by
  generalize hvs : v :: vs = all at h
  induction h with
  | done => cases hvs
  | next w h ih => exact .next w (ih hvs)
  | take front piece rest h =>
      cases hvs
      exact (h.of_part v).of_part front

/-- A piece can be cut once more; what is behind the first cut may serve for other pieces. -/
theorem cut {front piece rest : Text} (h : Pieces us ((front ++ (piece ++ rest)) :: vs))
    (hmore : ∀ {us : List Text}, Pieces us (rest :: vs) → Pieces us ws) :
    Pieces us (piece :: ws) := by
  generalize hvs : (front ++ (piece ++ rest)) :: vs = all at h
  induction h with
  | done => cases hvs
  | next w h ih => exact .next w (ih hvs)
  | take before whole behind h =>
      cases hvs
      -- what is behind the cut goes on with what is behind the whole piece
      have hbehind := hmore (.take [] rest behind h)
      have hcut := take (before ++ front) piece (rest ++ behind) hbehind
      simpa using hcut

theorem trans (h : Pieces us vs) (h' : Pieces vs ws) : Pieces us ws := by
  induction h' generalizing us with
  | done => exact .done us
  | next w h' ih => exact ih h.tail
  | take front piece rest h' ih => exact h.cut ih

end Pieces

/-- Where a text is divided, a word may be cut. -/
theorem pieces_words_append (s t : Text) : Pieces (words (s ++ t)) (words s ++ words t) := by
  rcases words_append_cases s t with hwords | ⟨front, u, v, back, hs, ht, hwords⟩
  · rw [hwords]
    exact .refl _
  · rw [hwords, hs, ht, List.append_assoc]
    have hcut := Pieces.take [] u v ((Pieces.refl back).whole v)
    exact (Pieces.refl front).append hcut

/-- Words are cut into pieces or left out, and never joined. -/
theorem Strikes.pieces (h : Strikes phrases s t) : Pieces (words s) (words t) := by
  cases h with
  | @out p hp before behind =>
      rw [words_append_blank isBlank_space]
      have hbehind : Pieces (words (p ++ behind)) (words behind) :=
        (pieces_words_append p behind).trans ((Pieces.refl _).append_left (words p))
      exact (pieces_words_append before (p ++ behind)).trans ((Pieces.refl _).append hbehind)

theorem Struck.pieces (h : Struck phrases s t) : Pieces (words s) (words t) :=
  h.invariant (P := fun t => Pieces (words s) (words t))
    (fun _ _ hstep hkept => hkept.trans hstep.pieces) (.refl _)

end Text
end ChatAssistant
