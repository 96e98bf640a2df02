import Courier.Proofs.Publishing.Steps
import Courier.Publishing.Prune

/-! How the files of a plan are deleted.

Each file is one request, or has none if there is no address for it. A real run makes them one after
the other, as a course over the files to delete (`course_carryOut`); a dry run makes none
(`trace_carryOut_dry`). -/
namespace Courier.Publishing

open Http (Errand Request Reply Response Session)
open Http.Session (Log Trace trace_done_iff trace_print_iff trace_send_iff trace_bind_iff
  trace_sayAll_iff)

/-! ### Deleting a file -/

/-- The request that deletes a file, or why there is none. -/
def Client.deletionRequest (c : Client) (repository path : String) : Except Error Request :=
  match c.contentUrl repository path with
  | .error e => .error e
  | .ok u =>
    let r := c.requestTo .delete u none []
    if isSendable r then .ok r else .error .transport

/-- The request to delete a file goes to the address of that file. -/
theorem deletionRequest_eq_ok {c : Client} {repository path : String} {r : Request}
    (h : c.deletionRequest repository path = .ok r) :
    ∃ u, c.contentUrl repository path = .ok u ∧ r = c.requestTo .delete u none [] := by
  unfold Client.deletionRequest at h
  cases hu : c.contentUrl repository path with
  | error e =>
    rw [hu] at h
    cases h
  | ok u =>
    simp only [hu] at h
    split at h
    · exact ⟨u, rfl, (Except.ok.inj h).symm⟩
    · cases h

/-- A whole response that tells of success. -/
def isDone : Reply → Bool
  | .lost => false
  | .answered r => r.isSuccess && r.body.isSome

/-- The error of a file that is not deleted. -/
def deletionError (c : Client) (repository path : String) : Reply → Error
  | .lost => .transport
  | .answered r =>
    if r.isSuccess then .transport
    else
      match c.contentUrl repository path with
      | .error e => e
      | .ok u => .http u.text r.status r.reason

/-- Deleting files one after the other. -/
def deletions (p : Publisher) (repository : String) : Errand RemoteFile Error where
  request f := p.client.deletionRequest repository f.path
  accepts := isDone
  refusal f := deletionError p.client repository f.path

/-- What deleting makes of a reply: done, or the error for it. -/
theorem settle_deletion {c : Client} {repository path : String} {u : Url} (reply : Reply)
    (hu : c.contentUrl repository path = .ok u) :
    Client.settle reply u.text (fun r => if r.isSuccess then some () else none) =
      if isDone reply then .ok () else .error (deletionError c repository path reply) := by
  cases reply with
  | lost => rfl
  | answered r =>
    obtain ⟨status, reason, body⟩ := r
    unfold Client.settle isDone deletionError Client.bodyOf
    by_cases hsuccess : Response.isSuccess ⟨status, reason, body⟩ = true
    · cases body with
      | none => simp [hsuccess, Except.map]
      | some body => simp [hsuccess, Except.map]
    · simp [hsuccess, hu, Client.httpError]

/-- Deleting a file is a course over that file alone. -/
theorem course_deleteFile {p : Publisher} {repository : String} {f : RemoteFile} {log : Log}
    {answer : Except Error Unit} (h : Trace (p.client.deleteFile repository f.path) log answer) :
    (deletions p repository).Course [f] log answer := by
  unfold Client.deleteFile at h
  cases hu : p.client.contentUrl repository f.path with
  | error e =>
    rw [hu] at h
    obtain ⟨rfl, rfl⟩ := trace_done_iff.1 h
    have hrequest : (deletions p repository).request f = .error e := by
      simp only [deletions, Client.deletionRequest, hu]
    exact .unmade hrequest
  | ok u =>
    rw [hu] at h
    obtain ⟨before, reply, after, hexchange, hdone, rfl⟩ := trace_bind_iff.1 h
    obtain ⟨rfl, rfl⟩ := trace_done_iff.1 hdone
    rw [List.append_nil, settle_deletion reply hu]
    rw [exchange_some] at hexchange
    by_cases hsend : isSendable (p.client.requestTo .delete u none []) = true
    · have hrequest : (deletions p repository).request f =
          .ok (p.client.requestTo .delete u none []) := by
        simp only [deletions, Client.deletionRequest, hu, hsend, if_true]
      rw [if_pos hsend, trace_send_iff] at hexchange
      rw [hexchange]
      by_cases hreply : isDone reply = true
      · rw [if_pos hreply]
        exact .accepted hrequest hreply .finished
      · rw [if_neg hreply]
        exact .refused hrequest (Bool.eq_false_iff.2 hreply)
    · have hrequest : (deletions p repository).request f = .error .transport := by
        simp only [deletions, Client.deletionRequest, hu, hsend]
        rfl
      rw [if_neg hsend, trace_done_iff] at hexchange
      obtain ⟨rfl, rfl⟩ := hexchange
      exact .unmade hrequest

/-! ### Deleting the files of a plan -/

/-- What is done for each file is done for all of them, one after the other. -/
theorem course_removeAll {t : Errand RemoteFile Error}
    {remove : String → Session (Except Error Unit)} {files : List RemoteFile} {log : Log}
    {answer : Except Error Unit}
    (hremove : ∀ f log answer, Trace (remove f.path) log answer → t.Course [f] log answer)
    (h : Trace (Retention.removeAll remove files) log answer) : t.Course files log answer := by
  induction files generalizing log with
  | nil =>
    obtain ⟨rfl, rfl⟩ := trace_done_iff.1 h
    exact .finished
  | cons f files ih =>
    obtain ⟨before, done, after, hfirst, hrest, rfl⟩ := trace_bind_iff.1 h
    have hfirst := hremove f before done hfirst
    cases done with
    | error e =>
      obtain ⟨rfl, rfl⟩ := trace_done_iff.1 hrest
      rw [List.append_nil]
      exact hfirst.append_error
    | ok => exact hfirst.append_ok (ih hrest)

/-- A dry run only says what it would do. -/
theorem trace_removeAll_dry {p : Publisher} {repository : String} {files : List RemoteFile}
    {log : Log} {answer : Except Error Unit}
    (h : Trace (Retention.removeAll (p.removeFile repository true) files) log answer) :
    log = [] ∧ answer = .ok () := by
  induction files generalizing log with
  | nil => exact trace_done_iff.1 h
  | cons f files ih =>
    obtain ⟨before, done, after, hfirst, hrest, rfl⟩ := trace_bind_iff.1 h
    obtain ⟨rfl, rfl⟩ := trace_done_iff.1 (trace_print_iff.1 hfirst)
    exact ih hrest

/-- Carrying out a plan answers with the plan, unless removing a file fails. -/
theorem trace_carryOut {p : Publisher} {repository : String} {dryRun : Bool}
    {chosen : Retention.Plan} {log : Log} {answer : Except Error Retention.Plan}
    (h : Trace (p.carryOut repository dryRun chosen) log answer) :
    ∃ verdict, Trace (Retention.removeAll (p.removeFile repository dryRun) chosen.delete) log
      verdict ∧ answer = verdict.map fun () => chosen := by
  obtain ⟨said, _, rest, hsaid, happly, rfl⟩ := trace_bind_iff.1 h
  obtain rfl := trace_sayAll_iff.1 hsaid
  rw [List.nil_append]
  obtain ⟨before, count, after, hcount, hend, rfl⟩ := trace_bind_iff.1 happly
  obtain ⟨front, verdict, back, hremove, hdone, rfl⟩ := trace_bind_iff.1 hcount
  refine ⟨verdict, ?_⟩
  cases verdict with
  | error e =>
    obtain ⟨rfl, rfl⟩ := trace_done_iff.1 hdone
    obtain ⟨rfl, rfl⟩ := trace_done_iff.1 hend
    rw [List.append_nil, List.append_nil]
    exact ⟨hremove, rfl⟩
  | ok =>
    obtain ⟨rfl, rfl⟩ := trace_done_iff.1 hdone
    obtain ⟨rfl, rfl⟩ := trace_done_iff.1 hend
    rw [List.append_nil, List.append_nil]
    exact ⟨hremove, rfl⟩

/-- A dry run sends nothing, and its plan is the answer. -/
theorem trace_carryOut_dry {p : Publisher} {repository : String} {chosen : Retention.Plan}
    {log : Log} {answer : Except Error Retention.Plan}
    (h : Trace (p.carryOut repository true chosen) log answer) :
    log = [] ∧ answer = .ok chosen := by
  obtain ⟨verdict, hremove, rfl⟩ := trace_carryOut h
  obtain ⟨rfl, rfl⟩ := trace_removeAll_dry hremove
  exact ⟨rfl, rfl⟩

/-- A real run is a course over the files to delete, and fails as it fails. -/
theorem course_carryOut {p : Publisher} {repository : String} {chosen : Retention.Plan}
    {log : Log} {answer : Except Error Retention.Plan}
    (h : Trace (p.carryOut repository false chosen) log answer) :
    ∃ verdict, (deletions p repository).Course chosen.delete log verdict ∧
      answer = verdict.map fun () => chosen := by
  obtain ⟨verdict, hremove, hanswer⟩ := trace_carryOut h
  refine ⟨verdict, course_removeAll ?_ hremove, hanswer⟩
  intro f log answer hfile
  exact course_deleteFile (trace_print_iff.1 hfile)

end Courier.Publishing
