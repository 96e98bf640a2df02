import Courier.Proofs.Http.Exchanges

/-! One request after the other.

An errand has a request for each of its items, or an error where none can be made. A course runs
over the items for as long as the replies are accepted, and ends at the first that is not, or in
front of an item of which no request can be made. So the requests made are the first ones of the
items, in their order (`Course.requests`), and how a course ended tells where (`Course.complete`,
`Course.stopped`). -/
namespace Courier.Http

open Session (Log Trace)

/-- What is to be done for each item over HTTP, and what becomes of the replies. -/
structure Errand (ι ε : Type) where
  /-- The request of an item, or why there is none. -/
  request : ι → Except ε Request
  accepts : Reply → Bool
  /-- The error of a reply that is not accepted. -/
  refusal : ι → Reply → ε

namespace Errand

variable {ι ε : Type} {t : Errand ι ε} {items later : List ι} {log added : Log}
  {verdict : Except ε Unit}

/-- Items with their exchanges, and how these end. -/
inductive Course (t : Errand ι ε) : List ι → Log → Except ε Unit → Prop where
  | finished : Course t [] [] (.ok ())
  | unmade {i rest e} : t.request i = .error e → Course t (i :: rest) [] (.error e)
  | refused {i rest request reply} : t.request i = .ok request → t.accepts reply = false →
      Course t (i :: rest) [(request, reply)] (.error (t.refusal i reply))
  | accepted {i rest request reply log verdict} : t.request i = .ok request →
      t.accepts reply = true → Course t rest log verdict →
      Course t (i :: rest) ((request, reply) :: log) verdict

/-- The last reply is the first that is not accepted, and the error is that of its item. -/
def StoppedByReply (t : Errand ι ε) (items : List ι) (log : Log) (e : ε) : Prop :=
  ∃ done last i, log = done ++ [last] ∧ (∀ x ∈ done, t.accepts x.2 = true) ∧
    items[done.length]? = some i ∧ t.accepts last.2 = false ∧ e = t.refusal i last.2

/-- All replies are accepted, and the next item has an error for a request. -/
def StoppedBeforeItem (t : Errand ι ε) (items : List ι) (log : Log) (e : ε) : Prop :=
  (∀ x ∈ log, t.accepts x.2 = true) ∧ ∃ i, items[log.length]? = some i ∧ t.request i = .error e

/-- A course that a reply stopped has one that was not accepted. -/
theorem StoppedByReply.not_all_accepted {e : ε} (h : t.StoppedByReply items log e) :
    ¬∀ x ∈ log, t.accepts x.2 = true := by
  obtain ⟨done, last, i, rfl, -, -, hlast, -⟩ := h
  intro hall
  have htrue : t.accepts last.2 = true := hall last (by simp)
  rw [hlast] at htrue
  cases htrue

/-- A course that stopped in front of an item has requests for fewer items than there are. -/
theorem StoppedBeforeItem.length_lt {e : ε} (h : t.StoppedBeforeItem items log e) :
    log.length < items.length := by
  obtain ⟨-, i, hitem, -⟩ := h
  exact (List.getElem?_eq_some_iff.1 hitem).1

namespace Course

/-- A course that ended well can be followed by another. -/
theorem append_ok (h : Course t items log (.ok ())) (hlater : Course t later added verdict) :
    Course t (items ++ later) (log ++ added) verdict := by
  generalize hv : (.ok () : Except ε Unit) = v at h
  induction h with
  | finished => exact hlater
  | unmade => cases hv
  | refused => cases hv
  | accepted hrequest hreply _ ih => exact .accepted hrequest hreply (ih hv)

/-- Items behind the one at which a course ended change nothing. -/
theorem append_error {e : ε} (h : Course t items log (.error e)) :
    Course t (items ++ later) log (.error e) := by
  generalize hv : (.error e : Except ε Unit) = v at h
  induction h with
  | finished => cases hv
  | unmade hrequest => exact .unmade hrequest
  | refused hrequest hreply => exact .refused hrequest hreply
  | accepted hrequest hreply _ ih => exact .accepted hrequest hreply (ih hv)

/-- The requests are made in the order of the items, from the first on. -/
theorem requests (h : Course t items log verdict) :
    log.map (fun x => .ok x.1) <+: items.map t.request := by
  induction h with
  | finished => exact List.prefix_rfl
  | unmade => exact List.nil_prefix
  | refused hrequest =>
    rw [List.map_cons, List.map_cons, hrequest]
    exact (List.prefix_cons_inj _).2 List.nil_prefix
  | accepted hrequest _ _ ih =>
    rw [List.map_cons, List.map_cons, hrequest]
    exact (List.prefix_cons_inj _).2 ih

/-- The request at each place of the log is that of the item at the same place. -/
theorem request_at (h : Course t items log verdict) {k : Nat} {x : Request × Reply}
    (hx : log[k]? = some x) : ∃ i, items[k]? = some i ∧ t.request i = .ok x.1 := by
  have hrequest : (log.map fun x => (.ok x.1 : Except ε Request))[k]? = some (.ok x.1) := by
    rw [List.getElem?_map, hx]
    rfl
  obtain ⟨more, hmore⟩ := h.requests
  have hmade : (items.map t.request)[k]? = some (.ok x.1) := by
    rw [← hmore, List.getElem?_append_left (List.getElem?_eq_some_iff.1 hrequest).1, hrequest]
  rw [List.getElem?_map, Option.map_eq_some_iff] at hmade
  exact hmade

/-- A course that ended well has a request for each item, each with a reply that was accepted. -/
theorem complete (h : Course t items log (.ok ())) :
    log.length = items.length ∧ ∀ x ∈ log, t.accepts x.2 = true := by
  generalize hv : (.ok () : Except ε Unit) = v at h
  induction h with
  | finished => exact ⟨rfl, by simp⟩
  | unmade => cases hv
  | refused => cases hv
  | accepted _ hreply _ ih =>
    obtain ⟨hlength, hall⟩ := ih hv
    exact ⟨congrArg (· + 1) hlength, List.forall_mem_cons.2 ⟨hreply, hall⟩⟩

/-- A course that succeeds makes the requests of all items. -/
theorem requests_of_ok (h : Course t items log (.ok ())) :
    log.map (fun x => .ok x.1) = items.map t.request :=
  h.requests.eq_of_length (by rw [List.length_map, List.length_map, h.complete.1])

/-- A course that succeeds could make the request of every item. -/
theorem made (h : Course t items log (.ok ())) {i : ι} (hi : i ∈ items) :
    ∃ r, t.request i = .ok r := by
  have hrequest := List.mem_map_of_mem (f := t.request) hi
  rw [← h.requests_of_ok] at hrequest
  obtain ⟨x, -, hx⟩ := List.mem_map.1 hrequest
  exact ⟨x.1, hx.symm⟩

/-- A course that fails ends with a reply that is not accepted, the first such, or in front of an
item of which no request can be made. -/
theorem stopped {e : ε} (h : Course t items log (.error e)) :
    t.StoppedByReply items log e ∨ t.StoppedBeforeItem items log e := by
  generalize hv : (.error e : Except ε Unit) = v at h
  induction h with
  | finished => cases hv
  | unmade hrequest =>
    cases hv
    exact .inr ⟨by simp, _, rfl, hrequest⟩
  | refused hrequest hreply =>
    cases hv
    exact .inl ⟨[], _, _, rfl, by simp, rfl, hreply, rfl⟩
  | accepted hrequest hreply _ ih =>
    rcases ih hv with ⟨done, last, i, rfl, hdone, hitem, hlast, he⟩ | ⟨hall, i, hitem, he⟩
    · exact .inl ⟨_ :: done, last, i, rfl, List.forall_mem_cons.2 ⟨hreply, hdone⟩, hitem, hlast, he⟩
    · exact .inr ⟨List.forall_mem_cons.2 ⟨hreply, hall⟩, i, hitem, he⟩

/-- A course makes a part of the requests of one that succeeds, from the front. -/
theorem prefix_of_ok {all : Log} (h : Course t items log verdict)
    (hall : Course t items all (.ok ())) : log.map (·.1) <+: all.map (·.1) := by
  have hinjective : Function.Injective (Except.ok : Request → Except ε Request) :=
    fun _ _ h => Except.ok.inj h
  have hsent := h.requests
  rw [← hall.requests_of_ok] at hsent
  apply (List.prefix_map_iff_of_injective hinjective).1
  rwa [List.map_map, List.map_map]

/-- If the requests of all items can be made, a course in which all replies are accepted succeeds.
-/
theorem ok_of_all_accepted {all : Log} (h : Course t items log verdict)
    (hall : Course t items all (.ok ())) (haccepted : ∀ x ∈ log, t.accepts x.2 = true) :
    verdict = .ok () := by
  cases verdict with
  | ok => rfl
  | error e =>
    rcases h.stopped with hreply | ⟨-, i, hitem, herror⟩
    · exact absurd haccepted hreply.not_all_accepted
    · obtain ⟨r, hr⟩ := hall.made (List.mem_of_getElem? hitem)
      rw [herror] at hr
      cases hr

end Course
end Errand
end Courier.Http
