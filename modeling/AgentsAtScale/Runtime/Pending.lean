import AgentsAtScale.Runtime.Sessions

namespace AgentsAtScale.Runtime

open Jobs

def Event.Answers (event : Event) (id : String) : Prop :=
  ∃ content part response, event.content = some content ∧ some part ∈ content.parts ∧
    part.functionResponse = some response ∧ response.id = id

def Event.Requests (event : Event) (id : String) : Prop :=
  ∃ input, event.requestedInput = some input ∧ input.interruptID = id

/-- The log has a request with the id that neither the same nor a later event answers. -/
def Unanswered (log : Log) (id : String) : Prop :=
  ∃ before event after, log = before ++ some event :: after ∧ event.Requests id ∧
    ∀ later, some later ∈ some event :: after → ¬ later.Answers id

def LastUnanswered (log : Log) (id : String) : Prop :=
  ∃ before event after, log = before ++ some event :: after ∧ event.Requests id ∧
    (∀ later, some later ∈ some event :: after → ¬ later.Answers id) ∧ ∀ id', ¬ Unanswered after id'

def requested (event : Option Event) : List String :=
  ((event.bind (·.requestedInput)).map (·.interruptID)).toList

section

open scoped Classical

noncomputable def unansweredBy (log : Log) (pending : List String) : List String :=
  pending.filter fun id => ∀ event, some event ∈ log → ¬ event.Answers id

variable {log : Log} {event : Option Event} {id : String} {pending : List String}

theorem mem_requested : id ∈ requested event ↔ ∃ e, event = some e ∧ e.Requests id := by
  cases event with
  | none => simp [requested]
  | some e => simp [requested, Event.Requests]

theorem mem_unansweredBy : id ∈ unansweredBy log pending ↔
    id ∈ pending ∧ ∀ event, some event ∈ log → ¬ event.Answers id := by
  rw [unansweredBy, List.mem_filter, decide_eq_true_iff]

theorem unansweredBy_nil : unansweredBy [] pending = pending :=
  List.filter_eq_self.mpr fun _ _ => decide_eq_true nofun

theorem unansweredBy_append (pending' : List String) :
    unansweredBy log (pending ++ pending') = unansweredBy log pending ++ unansweredBy log pending' :=
  List.filter_append ..

theorem unansweredBy_unansweredBy :
    unansweredBy log (unansweredBy [event] pending) = unansweredBy (event :: log) pending := by
  rw [unansweredBy, unansweredBy, unansweredBy, List.filter_filter]
  refine List.filter_congr fun id _ => ?_
  rw [← Bool.decide_and, decide_eq_decide]
  simp only [List.mem_cons, List.not_mem_nil, or_false, or_imp, forall_and, and_comm]

theorem foldl_deleteAnswered (parts : List (Option Part)) (pending : List String) :
    parts.foldl deleteAnswered pending = pending.filter fun id => ¬ ∃ part response,
      some part ∈ parts ∧ part.functionResponse = some response ∧ response.id = id := by
  induction parts generalizing pending with
  | nil => exact (List.filter_eq_self.mpr (by simp)).symm
  | cons part parts ih =>
    have hpart : deleteAnswered pending part = pending.filter fun id => ¬ ∃ p response,
        part = some p ∧ p.functionResponse = some response ∧ response.id = id := by
      unfold deleteAnswered
      cases hresponse : part.bind (·.functionResponse) with
      | none =>
        refine (List.filter_eq_self.mpr fun id _ => decide_eq_true ?_).symm
        rintro ⟨p, response, rfl, hp, -⟩
        cases hresponse.symm.trans hp
      | some answer =>
        obtain ⟨p, rfl, hp⟩ := Option.bind_eq_some_iff.mp hresponse
        refine List.filter_congr fun id _ => decide_eq_decide.mpr (not_congr ⟨?_, ?_⟩)
        · rintro rfl
          exact ⟨p, answer, rfl, hp, rfl⟩
        · rintro ⟨_, response, ⟨⟩, hresponse, hid⟩
          cases hp.symm.trans hresponse
          exact hid.symm
    rw [List.foldl_cons, ih, hpart, List.filter_filter]
    refine List.filter_congr fun id _ => ?_
    rw [← Bool.decide_and, decide_eq_decide, ← not_or, not_iff_not]
    simp only [List.mem_cons, eq_comm (b := part), or_and_right, exists_or, or_comm]

theorem pendingAfter_eq : pendingAfter pending event =
    unansweredBy [event] (pending ++ requested event) := by
  cases event with
  | none => simp [pendingAfter, requested, unansweredBy, List.filter_eq_self.mpr]
  | some event =>
    have hrequested : (pendingAfter pending (some { event with content := none })) =
        pending ++ requested (some event) := by
      simp only [pendingAfter, requested, Option.bind_some]
      cases event.requestedInput with
      | none => exact (List.append_nil pending).symm
      | some input => rfl
    rw [← hrequested, unansweredBy]
    cases hcontent : event.content with
    | none =>
      simp only [pendingAfter, hcontent]
      refine (List.filter_eq_self.mpr fun id _ => decide_eq_true ?_).symm
      rintro e hmem ⟨content, _, _, hsome, -⟩
      cases List.mem_singleton.mp hmem
      cases hcontent.symm.trans hsome
    | some content =>
      simp only [pendingAfter, hcontent, foldl_deleteAnswered]
      refine List.filter_congr fun id _ => decide_eq_decide.mpr ⟨?_, ?_⟩
      · rintro hparts e hmem ⟨content', part, response, hsome, hpart⟩
        cases List.mem_singleton.mp hmem
        cases hcontent.symm.trans hsome
        exact hparts ⟨part, response, hpart⟩
      · rintro hevent ⟨part, response, hpart⟩
        exact hevent event List.mem_cons_self ⟨content, part, response, hcontent, hpart⟩

theorem not_unanswered_nil : ¬ Unanswered [] id := by
  rintro ⟨before, event, after, hlog, -⟩
  cases before <;> cases hlog

theorem unanswered_cons : Unanswered (event :: log) id ↔
    id ∈ unansweredBy (event :: log) (requested event) ∨ Unanswered log id := by
  rw [mem_unansweredBy, mem_requested]
  constructor
  · rintro ⟨before, e, after, hlog, hasks, hlater⟩
    cases before with
    | nil =>
      cases hlog
      exact .inl ⟨⟨e, rfl, hasks⟩, hlater⟩
    | cons _ before =>
      cases hlog
      exact .inr ⟨before, e, after, rfl, hasks, hlater⟩
  · rintro (⟨⟨e, rfl, hasks⟩, hlater⟩ | ⟨before, e, after, rfl, hasks, hlater⟩)
    · exact ⟨[], e, log, rfl, hasks, hlater⟩
    · exact ⟨event :: before, e, after, rfl, hasks, hlater⟩

theorem LastUnanswered.cons (h : LastUnanswered log id) (event : Option Event) :
    LastUnanswered (event :: log) id := by
  obtain ⟨before, e, after, rfl, hasks, hlater, hlast⟩ := h
  exact ⟨event :: before, e, after, rfl, hasks, hlater, hlast⟩

theorem foldl_pendingAfter (log : Log) : ∃ opened,
    (∀ pending, log.foldl pendingAfter pending = unansweredBy log pending ++ opened) ∧
      (∀ id, id ∈ opened ↔ Unanswered log id) ∧
      ∀ id, opened.getLast? = some id → LastUnanswered log id := by
  induction log with
  | nil => exact ⟨[], by simp [unansweredBy_nil], fun _ => iff_of_false nofun not_unanswered_nil, nofun⟩
  | cons event log ih =>
    obtain ⟨opened, hfold, hmem, hlast⟩ := ih
    refine ⟨unansweredBy (event :: log) (requested event) ++ opened, fun pending => ?_, fun id => ?_,
      fun id hid => ?_⟩
    · rw [List.foldl_cons, hfold, pendingAfter_eq, unansweredBy_unansweredBy, unansweredBy_append,
        List.append_assoc]
    · rw [List.mem_append, hmem, unanswered_cons]
    · rw [List.getLast?_append] at hid
      cases hopened : opened.getLast? with
      | some id' =>
        rw [hopened] at hid
        cases hid
        exact (hlast _ hopened).cons event
      | none =>
        -- nothing is open after the event, so its own request is the last one
        rw [hopened] at hid
        obtain ⟨hrequested, hlater⟩ := mem_unansweredBy.mp (List.mem_of_getLast? hid)
        obtain ⟨e, rfl, hasks⟩ := mem_requested.mp hrequested
        refine ⟨[], e, log, rfl, hasks, hlater, fun id' hopen => ?_⟩
        rw [← hmem, List.getLast?_eq_none_iff.mp hopened] at hopen
        cases hopen

theorem mem_pendingInterrupts : id ∈ pendingInterrupts log ↔ Unanswered log id := by
  obtain ⟨opened, hfold, hmem, -⟩ := foldl_pendingAfter log
  rw [pendingInterrupts, hfold, ← hmem]
  rfl

end

theorem pendingInterrupt_last (log : Log) :
    (∃ id, LastUnanswered log id ∧ pendingInterrupt log = id) ∨
      (∀ id, ¬ Unanswered log id) ∧ pendingInterrupt log = "" := by
  obtain ⟨opened, hfold, hmem, hlast⟩ := foldl_pendingAfter log
  have hpending : pendingInterrupts log = opened := hfold []
  rw [pendingInterrupt, hpending]
  cases hopened : opened.getLast? with
  | some id => exact .inl ⟨id, hlast id hopened, rfl⟩
  | none =>
    refine .inr ⟨fun id hid => ?_, rfl⟩
    rw [← hmem, List.getLast?_eq_none_iff.mp hopened] at hid
    cases hid

end AgentsAtScale.Runtime
