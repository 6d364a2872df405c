import ChatAssistant.Text.Blank

/-!
# The memory of answers

Answers by the exact text of their question. Nothing is ever dropped; a second answer to a question
replaces the first.
-/

namespace ChatAssistant

/-- Pairs of a question and its answer, each question once, in the order of their first answers. -/
structure Cache where
  entries : List (Text × Text)
  deriving DecidableEq, Repr

namespace Cache

def empty : Cache := ⟨[]⟩

/-- The answer to exactly this question. -/
def lookup? (cache : Cache) (question : Text) : Option Text := cache.entries.lookup question

def insert (question answer : Text) : List (Text × Text) → List (Text × Text)
  | [] => [(question, answer)]
  | (q, a) :: rest =>
    if q = question then (q, answer) :: rest else (q, a) :: insert question answer rest

def store (cache : Cache) (question answer : Text) : Cache :=
  ⟨insert question answer cache.entries⟩

def size (cache : Cache) : Nat := cache.entries.length

/-! ## Look-ups after a store -/

theorem lookup_insert (question answer q : Text) (entries : List (Text × Text)) :
    (insert question answer entries).lookup q =
      if q = question then some answer else entries.lookup q := by
  induction entries with
  | nil =>
    by_cases h : q = question
    · simp [insert, h]
    · simp [insert, List.lookup_cons, h, beq_eq_false_iff_ne.2 h]
  | cons e rest ih =>
    obtain ⟨k, a⟩ := e
    by_cases hk : k = question
    · subst hk
      by_cases h : q = k
      · simp [insert, h]
      · simp [insert, List.lookup_cons, h, beq_eq_false_iff_ne.2 h]
    · by_cases h : q = k
      · subst h
        simp [insert, hk]
      · simp [insert, List.lookup_cons, hk, beq_eq_false_iff_ne.2 h, ih]

@[simp] theorem lookup?_store (cache : Cache) (question answer q : Text) :
    (cache.store question answer).lookup? q =
      if q = question then some answer else cache.lookup? q :=
  lookup_insert question answer q cache.entries

end Cache
end ChatAssistant
