import ChatAssistant.Assistant
import ChatAssistant.Proofs.Answer.Ceiling

/-!
# The replies a question can get

`Assistant.handle` and `Reply.ofOutcome` are the two halves of a handler, with a request between
them.  The relation `Handled` says what they come to: which replies a question can get, and which of
them go back to a request and its outcome.  Statements about answers go through it and do not open
the handlers again.

No handler ever replies with an empty text, so the apology stands for failures alone.
-/

namespace ChatAssistant

/-! ## Texts are not empty -/

/-- The text of a literal is empty only if the literal is; no need to spell it out. -/
theorem Text.literal_ne_nil {literal : String} (h : literal ≠ "") : literal.toList ≠ [] :=
  fun hnil => h (String.toList_eq_nil_iff.1 hnil)

theorem Text.literal_append_ne_nil {literal : String} (h : literal ≠ "") (s : Text) :
    literal.toList ++ s ≠ [] :=
  List.append_ne_nil_of_left_ne_nil (Text.literal_ne_nil h) s

theorem Text.append_literal_ne_nil {literal : String} (h : literal ≠ "") (s : Text) :
    s ++ literal.toList ≠ [] :=
  List.append_ne_nil_of_right_ne_nil s (Text.literal_ne_nil h)

namespace Problem

variable {α : Type} [Arithmetic α] {s text : Text}

theorem block_ne_nil (kind : Kind) (body : Text) : block kind body ≠ [] := by
  refine List.append_ne_nil_of_left_ne_nil (List.append_ne_nil_of_left_ne_nil ?_ _) _
  cases kind <;> exact Text.literal_ne_nil (by decide)

theorem evaluateIn_ne_nil (h : evaluateIn α s = .ok text) : text ≠ [] := by
  unfold evaluateIn at h
  split at h
  · cases h
  · split at h
    · cases h
    · cases h
      exact block_ne_nil _ _

theorem Kind.answer?_ne_nil {kind : Kind} (h : kind.answer? α s = some text) : text ≠ [] := by
  unfold Kind.answer? at h
  split at h
  · cases he : evaluateIn α s with
    | error e =>
        rw [he] at h
        cases h
    | ok t =>
        rw [he] at h
        cases h
        exact evaluateIn_ne_nil he
  · rcases Option.map_eq_some_iff.1 h with ⟨solution, _, rfl⟩
    exact block_ne_nil _ _

theorem Kind.help?_ne_nil {kind : Kind} (h : kind.help? = some text) : text ≠ [] := by
  cases kind with
  | howMuch => cases h
  | equation => cases h; exact Text.literal_append_ne_nil (by decide) _
  | powerRoot => cases h; exact Text.literal_append_ne_nil (by decide) _
  | percentage => cases h; exact Text.literal_append_ne_nil (by decide) _
  | trigonometry => cases h; exact Text.literal_ne_nil (by decide)

/-- Every problem is answered with some text. -/
theorem answer_ne_nil (α : Type) [Arithmetic α] (s : Text) : answer α s ≠ [] := by
  have hhint (other : Text) (ho : other ≠ []) :
      ((Kind.gated (Text.lowercase s)).findSome? Kind.help?).getD other ≠ [] := by
    cases hf : (Kind.gated (Text.lowercase s)).findSome? Kind.help? with
    | none => exact ho
    | some text =>
        rcases List.exists_of_findSome?_eq_some hf with ⟨kind, _, hk⟩
        exact Kind.help?_ne_nil hk
  unfold answer
  dsimp only
  split
  · rename_i hf
    rcases List.exists_of_findSome?_eq_some hf with ⟨kind, _, hk⟩
    exact Kind.answer?_ne_nil hk
  · split
    · rename_i he
      exact evaluateIn_ne_nil he
    · exact hhint _ (Text.append_literal_ne_nil (by decide) _)
    · exact hhint _ (Text.literal_ne_nil (by simp))

end Problem

theorem Answer.suggestion_ne_nil (question : Text) (pick : Answer.Pick) :
    Answer.suggestion question pick ≠ [] := by
  match pick with
  | 0 => exact Text.append_literal_ne_nil (by decide) _
  | 1 => exact Text.append_literal_ne_nil (by decide) _
  | 2 => exact Text.append_literal_ne_nil (by decide) _

namespace Encyclopedia

theorem Article.toText_ne_nil (article : Article) (summaryChars : Nat) :
    article.toText summaryChars ≠ [] := by
  unfold Article.toText
  dsimp only
  split <;> exact Text.append_literal_ne_nil (by decide) _

theorem faultMessage?_ne_nil {fault : Fault} {text : Text} (h : faultMessage? fault = some text) :
    text ≠ [] := by
  cases fault <;> cases h <;> exact Text.literal_ne_nil (by decide)

end Encyclopedia

/-! ## Handlers -/

namespace Assistant

open Encyclopedia (Outcome)

/-- A request to the encyclopedia and how it ended. -/
structure Request where
  query : Text
  outcome : Outcome
  deriving DecidableEq, Repr

/-- The question can get the reply: from its handler at once, or from the outcome of the request
that the handler makes. -/
inductive Handled (limits : Limits) (question : Text) : Option Request → Reply → Prop where
  | math (hi : (Intent.classify question).intent = .math) :
      Handled limits question none (.lasting (Problem.answer Float question))
  | general (hi : (Intent.classify question).intent = .general) (pick : Answer.Pick) :
      Handled limits question none (.lasting (Answer.suggestion question pick))
  | noQuery (hi : (Intent.classify question).intent = .encyclopedia)
      (hq : Encyclopedia.query question = []) :
      Handled limits question none (.lasting Encyclopedia.usageHint)
  | looked (hi : (Intent.classify question).intent = .encyclopedia)
      (hq : Encyclopedia.query question ≠ []) {outcome : Outcome} {reply : Reply}
      (hr : Reply.ofOutcome limits (Encyclopedia.query question) outcome = some reply) :
      Handled limits question (some ⟨Encyclopedia.query question, outcome⟩) reply

/-- The question leads to a request: it is about the encyclopedia and holds a query. -/
def Asks (question : Text) : Prop :=
  (Intent.classify question).intent = .encyclopedia ∧ Encyclopedia.query question ≠ []

instance (question : Text) : Decidable (Asks question) :=
  inferInstanceAs (Decidable (_ ∧ _))

variable {limits : Limits} {question : Text} {request : Option Request} {reply : Reply}

/-- The first half of a handler ends in a reply or in the one request of the question. -/
theorem handle_cases (limits : Limits) (pick : Answer.Pick) (question : Text) :
    (∃ reply, handle pick question = .replied reply ∧ Handled limits question none reply) ∨
      (handle pick question = .asking (Encyclopedia.query question) ∧ Asks question) := by
  unfold handle
  cases hi : (Intent.classify question).intent with
  | math => exact .inl ⟨_, rfl, .math hi⟩
  | general => exact .inl ⟨_, rfl, .general hi pick⟩
  | encyclopedia =>
      dsimp only
      split
      · rename_i hq
        exact .inl ⟨_, rfl, .noQuery hi (List.isEmpty_iff.1 hq)⟩
      · rename_i hq
        exact .inr ⟨rfl, hi, fun hnil => hq (List.isEmpty_iff.2 hnil)⟩

/-- A reply without a request belongs to a question that makes none. -/
theorem Handled.not_asks (h : Handled limits question none reply) : ¬ Asks question := by
  rintro ⟨hi, hq⟩
  cases h with
  | math hm => exact absurd (hi.symm.trans hm) (by decide)
  | general hg => exact absurd (hi.symm.trans hg) (by decide)
  | noQuery _ hnil => exact hq hnil

theorem Asks.handled (h : Asks question) {outcome : Outcome}
    (hr : Reply.ofOutcome limits (Encyclopedia.query question) outcome = some reply) :
    Handled limits question (some ⟨Encyclopedia.query question, outcome⟩) reply :=
  .looked h.1 h.2 hr

/-! ## Texts of replies -/

/-- The text of a reply; none if answering failed. -/
def Reply.text? : Reply → Option Text
  | .lasting s | .passing s => some s
  | .failure => none

theorem Reply.ofOutcome_text_ne_nil {query s : Text} {outcome : Outcome}
    (hr : Reply.ofOutcome limits query outcome = some reply) (hs : reply.text? = some s) :
    s ≠ [] := by
  cases outcome with
  | found article =>
      cases hr
      cases hs
      exact article.toText_ne_nil _
  | missing =>
      cases hr
      cases hs
      exact Text.append_literal_ne_nil (by decide) _
  | failed fault =>
      obtain rfl := Option.some.inj hr
      split at hs
      · rename_i hm
        cases hs
        exact Encyclopedia.faultMessage?_ne_nil hm
      · cases hs
  | crashed => cases hr

theorem Handled.text_ne_nil (h : Handled limits question request reply) {s : Text}
    (hs : reply.text? = some s) : s ≠ [] := by
  cases h with
  | math => cases hs; exact Problem.answer_ne_nil Float question
  | general _ pick => cases hs; exact Answer.suggestion_ne_nil question pick
  | noQuery => cases hs; exact Text.literal_append_ne_nil (by decide) _
  | looked _ _ hr => exact Reply.ofOutcome_text_ne_nil hr hs

theorem orApology_of_ne_nil {s : Text} (h : s ≠ []) : orApology s = s := by
  rw [orApology, if_neg (fun he => h (List.isEmpty_iff.1 he))]

/-- What is shown of a reply is its text under the ceiling, or the apology. -/
theorem Handled.shown_eq (h : Handled limits question request reply) :
    reply.shown limits =
      (reply.text?.map (Answer.enforceCeiling limits.maxAnswer)).getD apology := by
  cases reply with
  | lasting s =>
      exact orApology_of_ne_nil (Answer.enforceCeiling_ne_nil (h.text_ne_nil rfl))
  | passing s =>
      exact orApology_of_ne_nil (Answer.enforceCeiling_ne_nil (h.text_ne_nil rfl))
  | failure => rfl

/-- No reply is shown as an empty text. -/
theorem Handled.shown_ne_nil (h : Handled limits question request reply) :
    reply.shown limits ≠ [] := by
  rw [h.shown_eq]
  cases hs : reply.text? with
  | none => exact Text.literal_append_ne_nil (by decide) _
  | some s => exact Answer.enforceCeiling_ne_nil (h.text_ne_nil hs)

/-- What a passing message shows is the message under the ceiling. -/
theorem shown_passing {text : Text} (h : text ≠ []) :
    (Reply.passing text).shown limits = Answer.enforceCeiling limits.maxAnswer text :=
  orApology_of_ne_nil (Answer.enforceCeiling_ne_nil h)

/-! ## Whole calls -/

/-- How a call can go: the answer was remembered, its handler replies at once or after the request,
or the request brings the call down. -/
inductive Called (limits : Limits) (world : World) (cache : Cache) (question : Text) :
    Call → Prop where
  | remembered {a : Text} (hc : cache.lookup? question = some a) :
      Called limits world cache question ⟨some a, cache, none, 0⟩
  | handled (hc : cache.lookup? question = none) {reply : Reply}
      (hr : Handled limits question none reply) :
      Called limits world cache question
        ⟨some (reply.shown limits), reply.remember limits question cache, none, 0⟩
  | looked (hc : cache.lookup? question = none) (ha : Asks question) {reply : Reply}
      (hr : Reply.ofOutcome limits (Encyclopedia.query question)
        (world.lookup (Encyclopedia.query question)).outcome = some reply) :
      Called limits world cache question
        ⟨some (reply.shown limits), reply.remember limits question cache,
          some (Encyclopedia.query question), (world.lookup (Encyclopedia.query question)).delay⟩
  | crashed (hc : cache.lookup? question = none) (ha : Asks question)
      (ho : (world.lookup (Encyclopedia.query question)).outcome = .crashed) :
      Called limits world cache question
        ⟨none, cache, some (Encyclopedia.query question),
          (world.lookup (Encyclopedia.query question)).delay⟩

theorem called_answer (limits : Limits) (world : World) (cache : Cache) (question : Text) :
    Called limits world cache question (answer limits world cache question) := by
  unfold answer begin
  cases hc : cache.lookup? question with
  | some a => exact .remembered hc
  | none =>
      rcases handle_cases limits world.pick question with ⟨reply, hh, hr⟩ | ⟨hh, ha⟩
      · simp only [hh]
        exact .handled hc hr
      · simp only [hh]
        cases ho : (world.lookup (Encyclopedia.query question)).outcome with
        | crashed => exact .crashed hc ha ho
        | found article => exact .looked hc ha (by rw [ho]; rfl)
        | missing => exact .looked hc ha (by rw [ho]; rfl)
        | failed fault => exact .looked hc ha (by rw [ho]; rfl)

/-- A call for a query that is not remembered is its request and what follows from the outcome. -/
theorem answer_of_asks (limits : Limits) (world : World) {cache : Cache}
    (hn : cache.lookup? question = none) (ha : Asks question) :
    answer limits world cache question =
      match Reply.ofOutcome limits (Encyclopedia.query question)
        (world.lookup (Encyclopedia.query question)).outcome with
      | some reply => ⟨some (reply.shown limits), reply.remember limits question cache,
          some (Encyclopedia.query question), (world.lookup (Encyclopedia.query question)).delay⟩
      | none => ⟨none, cache, some (Encyclopedia.query question),
          (world.lookup (Encyclopedia.query question)).delay⟩ := by
  unfold answer begin
  rcases handle_cases limits world.pick question with ⟨reply, _, hr⟩ | ⟨hh, _⟩
  · exact absurd ha hr.not_asks
  · cases hr : Reply.ofOutcome limits (Encyclopedia.query question)
      (world.lookup (Encyclopedia.query question)).outcome with
    | some reply => simp only [hn, hh, hr]
    | none => simp only [hn, hh, hr]

end Assistant

end ChatAssistant
