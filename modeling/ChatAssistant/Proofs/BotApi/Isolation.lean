import ChatAssistant.Proofs.BotApi.Reception

/-!
# A delivery is nobody else's concern

What becomes of the requests for one reply, and when, makes no difference to anything but these
requests.  To see this, they are taken out of a run: a reply that is on its way, or at its end,
counts as one that is still to be sent, and what is left of the run is a run as well.

* `Reception.without` — all but the sending of one reply;
* `Reception.run_without` — a run without the steps that send one reply;
* `Reception.agree_of_run` — two runs that differ in the sending of one reply agree in all else.
-/

namespace ChatAssistant
namespace BotApi

/-! ## One handler -/

/-- How far the work has come, without the sending of the reply. -/
def Stage.unsent : Stage → Stage
  | .sending _ reply | .resending reply | .done reply => .ready reply
  | stage => stage

def Handler.unsent (h : Handler) : Handler := { h with stage := h.stage.unsent }

/-- The step sends a reply, or is about the end of that. -/
def Move.delivers : Move → Bool
  | .send | .finish _ => true
  | .begin | .hear _ | .giveUp => false

variable {terms : Service.Terms} {bot : Bot} {s : Service} {h : Handler} {m : Move} {w : Work}

/-- At the end of a conversation nothing is sent yet. -/
theorem Handler.unsent_conclude (h : Handler) (chat : Int64) (c : Conversation.Course)
    (result : Except Fault Text) :
    (h.conclude chat c result).unsent = h.conclude chat c result := by
  unfold conclude
  cases (c.finish result).map (chat, ·) with
  | none => rfl
  | some reply => rfl

/-- A step that sends a reply concerns the handler alone. -/
theorem Worked.unsent_eq (hw : Worked terms bot s h m w) (hm : m.delivers = true) :
    w.service = s ∧ w.handler.unsent = h.unsent := by
  cases hw with
  | unsent hs => exact ⟨rfl, by simp [Handler.unsent, Stage.unsent, hs]⟩
  | sent hs => exact ⟨rfl, by simp [Handler.unsent, Stage.unsent, hs]⟩
  | refused hs => exact ⟨rfl, by simp [Handler.unsent, Stage.unsent, hs]⟩
  | ended hs => exact ⟨rfl, by simp [Handler.unsent, Stage.unsent, hs]⟩
  | endedAgain hs => exact ⟨rfl, by simp [Handler.unsent, Stage.unsent, hs]⟩
  | _ => cases hm

/-- Any other step is taken before anything is sent. -/
theorem Worked.unsent_of_not_delivers (hw : Worked terms bot s h m w) (hm : ¬ m.delivers = true) :
    h.unsent = h ∧ w.handler.unsent = w.handler ∧ w.acts = [] := by
  obtain ⟨update, ticket, stage⟩ := h
  cases hw with
  | passed hs =>
      cases hs
      exact ⟨rfl, rfl, rfl⟩
  | answered hs =>
      cases hs
      exact ⟨rfl, Handler.unsent_conclude _ _ _ _, rfl⟩
  | asked hs =>
      cases hs
      exact ⟨rfl, rfl, rfl⟩
  | heard hs =>
      cases hs
      exact ⟨rfl, Handler.unsent_conclude _ _ _ _, rfl⟩
  | gaveUp hs =>
      cases hs
      exact ⟨rfl, Handler.unsent_conclude _ _ _ _, rfl⟩
  | _ => exact absurd rfl hm

/-! ## All handlers -/

namespace Reception

variable {r r' r₁ r₂ : Reception} {event : Event} {history history' : List Event} {number : Nat}

/-- The handlers, one of them without the sending of its reply. -/
def unsentAt (number : Nat) (handlers : List Handler) : List Handler :=
  handlers.mapIdx fun place h => if place = number then h.unsent else h

/-- All that is going on but the sending of one reply. -/
def without (number : Nat) (r : Reception) : Reception :=
  { r with
    handlers := unsentAt number r.handlers
    traffic := r.traffic.filter (·.1 ≠ number) }

/-- The event is a step of this handler that sends its reply, or is about the end of that. -/
def Event.delivers (number : Nat) : Event → Bool
  | .work place m => place = number && m.delivers
  | .serve _ | .poll _ => false

theorem getElem?_unsentAt (number : Nat) (handlers : List Handler) (place : Nat) :
    (unsentAt number handlers)[place]? =
      (handlers[place]?).map fun h => if place = number then h.unsent else h :=
  List.getElem?_mapIdx

theorem unsentAt_set (number : Nat) (handlers : List Handler) (place : Nat) (h : Handler) :
    unsentAt number (handlers.set place h) =
      (unsentAt number handlers).set place (if place = number then h.unsent else h) :=
  List.mapIdx_set

/-- A handler that was just started has sent nothing. -/
theorem unsentAt_append_start (number : Nat) (handlers : List Handler) (updates : List Update) :
    unsentAt number (handlers ++ updates.map .start) =
      unsentAt number handlers ++ updates.map .start := by
  have hstart : (updates.map Handler.start).mapIdx
      (fun place h => if place + handlers.length = number then h.unsent else h) =
        updates.map .start := by
    refine List.ext_getElem? fun place => ?_
    rw [List.getElem?_mapIdx, List.getElem?_map, Option.map_map]
    refine congrArg (Option.map · updates[place]?) (funext fun u => ?_)
    dsimp only [Function.comp]
    split
    · rfl
    · rfl
  rw [unsentAt, List.mapIdx_append, hstart]
  rfl

/-- Of what goes over the network for one handler, nothing or all is left. -/
theorem filter_traffic (number place : Nat) (acts : List Act) :
    (acts.map (place, ·)).filter (·.1 ≠ number) =
      if place = number then [] else acts.map (place, ·) := by
  split
  · rename_i heq
    simp [heq]
  · rename_i hne
    simp [hne]

theorem getElem?_without {place : Nat} (hplace : place ≠ number) :
    (r.without number).handlers[place]? = r.handlers[place]? := by
  simp [without, getElem?_unsentAt, hplace]

theorem actsOf_without {place : Nat} (hplace : place ≠ number) :
    (r.without number).actsOf place = r.actsOf place := by
  unfold actsOf without
  rw [List.filter_filter]
  congr 1
  refine List.filter_congr fun entry _ => ?_
  by_cases hentry : entry.1 = place
  · simp [hentry, hplace]
  · simp [hentry]

/-- A step that sends the reply does nothing else. -/
theorem without_of_delivers (h : Stepped terms bot r event r')
    (hd : event.delivers number = true) : r'.without number = r.without number := by
  cases h with
  | served => cases hd
  | polled => cases hd
  | @worked place h m w hh hw =>
      obtain ⟨hplace, hm⟩ := Bool.and_eq_true_iff.1 hd
      have hplace := of_decide_eq_true hplace
      subst hplace
      obtain ⟨hservice, hunsent⟩ := (worked_of_work hw).unsent_eq hm
      have hplace : (unsentAt place r.handlers)[place]? = some h.unsent := by
        rw [getElem?_unsentAt, hh, Option.map_some, if_pos rfl]
      have hsame : (unsentAt place r.handlers).set place h.unsent = unsentAt place r.handlers := by
        obtain ⟨hlt, hget⟩ := List.getElem?_eq_some_iff.1 hplace
        rw [← hget, List.set_getElem_self]
      unfold without
      rw [unsentAt_set, if_pos rfl, hunsent, hsame, List.filter_append, filter_traffic, if_pos rfl,
        List.append_nil, hservice]

/-- Any other event is the same without the sending of the reply. -/
theorem step_without (h : Stepped terms bot r event r') (hd : ¬ event.delivers number = true) :
    (r.without number).step terms bot event = some (r'.without number) := by
  cases h with
  | served hs => simp [step, without, hs]
  | polled network => simp [step, without, unsentAt_append_start]
  | @worked place h m w hh hw =>
      -- the step is another handler's, or it is taken before anything is sent
      obtain ⟨hbefore, hafter, htraffic⟩ :
          (if place = number then h.unsent else h) = h ∧
            (if place = number then w.handler.unsent else w.handler) = w.handler ∧
            (w.acts.map (place, ·)).filter (·.1 ≠ number) = w.acts.map (place, ·) := by
        rw [filter_traffic]
        by_cases hplace : place = number
        · have hm : ¬ m.delivers = true := by
            intro hm
            exact hd (by simp [Event.delivers, hplace, hm])
          obtain ⟨hunsent, hunsent', hacts⟩ := (worked_of_work hw).unsent_of_not_delivers hm
          simp [hplace, hunsent, hunsent', hacts]
        · simp [hplace]
      have hplace : (r.without number).handlers[place]? = some h := by
        rw [without, getElem?_unsentAt, hh, Option.map_some, hbefore]
      rw [step_work hplace hw]
      unfold without
      rw [unsentAt_set, hafter, List.filter_append, htraffic]

/-- What is left of a run without the sending of one reply is a run. -/
theorem run_without (h : r.run terms bot history = some r') (number : Nat) :
    (r.without number).run terms bot (history.filter (!·.delivers number)) =
      some (r'.without number) := by
  induction history generalizing r with
  | nil =>
      cases h
      rfl
  | cons event rest ih =>
      obtain ⟨next, hnext, hrest⟩ := Option.bind_eq_some_iff.1 h
      have hstep := stepped_of_step hnext
      by_cases hd : event.delivers number = true
      · rw [List.filter_cons_of_neg (by simp [hd]), ← without_of_delivers hstep hd]
        exact ih hrest
      · rw [List.filter_cons_of_pos (by simp [hd]), run, step_without hstep hd]
        exact ih hrest

/-- Two runs that differ in nothing but the sending of one reply agree in all else. -/
theorem agree_of_run (h₁ : r.run terms bot history = some r₁)
    (h₂ : r.run terms bot history' = some r₂)
    (he : history.filter (!·.delivers number) = history'.filter (!·.delivers number)) :
    r₁.service = r₂.service ∧ r₁.offset = r₂.offset ∧
      ∀ place, place ≠ number →
        r₁.handlers[place]? = r₂.handlers[place]? ∧ r₁.actsOf place = r₂.actsOf place := by
  have hsame : r₁.without number = r₂.without number := by
    have hrun := run_without h₁ number
    rw [he, run_without h₂ number] at hrun
    exact (Option.some.inj hrun).symm
  refine ⟨congrArg (·.service) hsame, congrArg (·.offset) hsame, fun place hplace => ⟨?_, ?_⟩⟩
  · rw [← getElem?_without hplace, hsame, getElem?_without hplace]
  · rw [← actsOf_without hplace, hsame, actsOf_without hplace]

end Reception
end BotApi
end ChatAssistant
