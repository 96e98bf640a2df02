import Courier.Proofs.Http.Course
import Courier.Publishing.Publish

/-! The steps of publishing, and the exchanges that go with them.

A plan is carried out in steps that are known ahead: each version is created before the first
upload to it, and each upload is one request. A step makes at most one request. `Run` relates the
steps to the exchanges of a session: it goes on for as long as replies are accepted, and ends at
the first that is not, or at a step of which no request can be made. It is the course of an errand,
which is where its laws come from. -/
namespace Courier.Publishing

open Http (Request Reply Session)
open Http.Session (Log Trace)

/-! ### Steps -/

/-- Repository and version of an upload. -/
def Upload.release (u : Upload) : String × String := (u.repository, u.version)

/-- What publishing does on a server, one request at a time. -/
inductive Step where
  | create (release : String × String)
  | put (upload : Upload)
  deriving DecidableEq, Repr

/-- The steps of uploads, behind uploads of the releases in `earlier`. -/
def stepsAfter : List (String × String) → List Upload → List Step
  | _, [] => []
  | earlier, u :: rest =>
    (if earlier.contains u.release then [] else [.create u.release]) ++
      .put u :: stepsAfter (earlier ++ [u.release]) rest

theorem put_mem_stepsAfter {u : Upload} {uploads : List Upload} (hu : u ∈ uploads)
    (earlier : List (String × String)) : .put u ∈ stepsAfter earlier uploads := by
  induction uploads generalizing earlier with
  | nil => cases hu
  | cons v rest ih =>
    rw [stepsAfter, List.mem_append]
    rcases List.mem_cons.1 hu with rfl | hu
    · exact .inr (List.mem_cons_self ..)
    · exact .inr (List.mem_cons_of_mem _ (ih hu _))

/-! ### Requests -/

/-- Where there is somewhere to go, and the address is not too long. -/
def isSendable (r : Request) : Bool :=
  r.url.host.isSome && r.url.text.utf8ByteSize ≤ Http.maxUrlSize

/-- A request that cannot be sent gets no reply. -/
theorem exchange_some (r : Request) :
    Client.exchange (some r) = if isSendable r then .send r else .done .lost := by
  unfold Client.exchange isSendable
  by_cases hlong : Http.maxUrlSize < r.url.text.utf8ByteSize
  · have hsize : ¬r.url.text.utf8ByteSize ≤ Http.maxUrlSize := by omega
    simp [hlong, hsize]
  · cases hhost : r.url.host with
    | none => simp [hhost]
    | some host =>
      have hsize : r.url.text.utf8ByteSize ≤ Http.maxUrlSize := by omega
      simp [hhost, hlong, hsize]

/-- A request to an address that is text. -/
def Client.request (c : Client) (method : Http.Method) (url contentType : String) (body : Bytes) :
    Except Error Request :=
  match Url.parse url with
  | .error _ => .error .transport
  | .ok u =>
    let r := c.requestTo method u (some contentType) body
    if isSendable r then .ok r else .error .transport

namespace Step

/-- The address that a step is about, as it is reported. -/
def url (p : Publisher) : Step → String
  | .create (repository, _) =>
    p.client.url (p.client.packagePath repository p.settings.package ++ "/versions")
  | .put u => p.client.url u.target

/-- The request of a step, or why there is none. -/
def request (p : Publisher) (tree : FileTree) (step : Step) : Except Error Request :=
  match step with
  | .create (_, version) =>
    p.client.request .post (step.url p) "application/json"
      (Client.versionBody version p.settings.description)
  | .put u =>
    match readFile tree u.file with
    | .error e => .error e
    | .ok data => p.client.request .put (step.url p) "application/binary" data

end Step

/-! ### Replies -/

/-- A whole response that tells of success, or that the thing is there already. -/
def accepted : Reply → Bool
  | .lost => false
  | .answered r => (r.status = 200 || r.status = 201 || r.status = 409) && r.body.isSome

/-- An accepted reply that tells of success. -/
def fresh : Reply → Bool
  | .lost => false
  | .answered r => r.status = 200 || r.status = 201

/-- The error of a reply that is not accepted. -/
def refusal (url : String) : Reply → Error
  | .lost => .transport
  | .answered r =>
    if r.status = 200 ∨ r.status = 201 ∨ r.status = 409 then .transport
    else .http url r.status r.reason

/-- What a step makes of a reply: something new or something that was there, or a refusal. -/
theorem settle_outcome {α : Type} (reply : Reply) (url : String) (new existing : α) :
    Client.settle reply url (Client.outcome new existing) =
      if accepted reply then .ok (if fresh reply then new else existing)
      else .error (refusal url reply) := by
  cases reply with
  | lost => rfl
  | answered r =>
    obtain ⟨status, reason, body⟩ := r
    unfold Client.settle Client.outcome accepted fresh refusal Client.bodyOf
    by_cases hnew : status = 200 ∨ status = 201
    · have hany : status = 200 ∨ status = 201 ∨ status = 409 := by omega
      cases body with
      | none => simp [hnew, hany, Except.map]
      | some body => simp [hnew, Except.map]
    by_cases hexisting : status = 409
    · cases body with
      | none => simp [hexisting, Except.map]
      | some body => simp [hexisting, Except.map]
    · simp [hnew, hexisting, Client.httpError]

/-! ### Runs -/

/-- The requests of steps, and which replies to them will do. -/
def errand (p : Publisher) (tree : FileTree) : Http.Errand Step Error where
  request := Step.request p tree
  accepts := accepted
  refusal step reply := refusal (step.url p) reply

/-- Steps with their exchanges, and how these end. -/
abbrev Run (p : Publisher) (tree : FileTree) : List Step → Log → Except Error Unit → Prop :=
  (errand p tree).Course

/-- The last reply is the first that is not accepted, and the error is that of its step. -/
abbrev StoppedByReply (p : Publisher) (tree : FileTree) : List Step → Log → Error → Prop :=
  (errand p tree).StoppedByReply

/-- All replies are accepted, and the next step has an error for a request. -/
abbrev StoppedBeforeStep (p : Publisher) (tree : FileTree) : List Step → Log → Error → Prop :=
  (errand p tree).StoppedBeforeItem

end Courier.Publishing
