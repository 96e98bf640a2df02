import Courier.Proofs.Publishing.Pruning
import Courier.Proofs.Retention.Lines
import Courier.Proofs.Retention.Remainder

/-! Pruning that is tried out first, or that goes on where it was broken off.

A dry run asks for the listing and plans. A real run asks for it as well, has the same plan, and
then deletes: its exchanges are a course over the files to delete (`course_pruned`), which ends at
the first request that is not answered as done. What a later run finds is a listing without the files
that are gone already, and its plan deletes the others (`prune_resumes`). -/
namespace Courier.Publishing

open Http (Request Reply Response Session)
open Http.Session
open Retention (plan without)

/-! ### Runs -/

theorem length_trace_files {p : Publisher} {repository : String} {unpublished : Bool} {log : Log}
    {answer : Except Error (List RemoteFile)}
    (h : Trace (p.files repository unpublished) log answer) : log.length ≤ 1 := by
  obtain ⟨before, reply, after, hexchange, hdone, rfl⟩ := trace_bind_iff.1 h
  obtain ⟨rfl, rfl⟩ := trace_done_iff.1 hdone
  rw [List.append_nil]
  rcases trace_exchange hexchange with ⟨rfl, -⟩ | ⟨request, -, rfl⟩
  · exact Nat.zero_le 1
  · exact Nat.le_refl 1

/-- What comes of asking a server for its files. The server notes what it is asked. -/
def Publisher.listed {σ : Type} (p : Publisher) (repository : String) (unpublished : Bool)
    (reply : σ → Request → Reply × σ) (server : σ) :
    Session.Played (σ × Log) (Except Error (List RemoteFile)) :=
  Session.play (noting reply) (server, []) (p.files repository unpublished)

/-- What comes of pruning. -/
def Publisher.pruned {σ : Type} (p : Publisher) (repository : String) (keep : Nat)
    (unpublished : Bool) (reply : σ → Request → Reply × σ) (server : σ) (dryRun : Bool) :
    Session.Played (σ × Log) (Except Error Retention.Plan) :=
  Session.play (noting reply) (server, []) (p.prune repository keep unpublished dryRun)

section

variable {σ : Type} {p : Publisher} {repository : String} {keep : Nat} {unpublished : Bool}
  {reply : σ → Request → Reply × σ} {server : σ}

theorem trace_listed : Trace (p.files repository unpublished)
    (p.listed repository unpublished reply server).server.2
    (p.listed repository unpublished reply server).answer := by
  obtain ⟨log, hlog, htrace, -⟩ := trace_play reply server [] (p.files repository unpublished)
  rw [List.nil_append] at hlog
  rw [Publisher.listed, hlog]
  exact htrace

/-- Without the listing nothing is done. -/
theorem pruned_of_error {dryRun : Bool} {e : Error}
    (h : (p.listed repository unpublished reply server).answer = .error e) :
    (p.pruned repository keep unpublished reply server dryRun).server.2 =
        (p.listed repository unpublished reply server).server.2 ∧
      (p.pruned repository keep unpublished reply server dryRun).answer = .error e := by
  rw [Publisher.listed] at h
  obtain ⟨hanswer, hserver⟩ := play_andThen_of_error
    (f := fun files => p.carryOut repository dryRun (plan files keep)) h
  rw [Publisher.listed, Publisher.pruned, Publisher.prune]
  exact ⟨congrArg Prod.snd hserver, hanswer⟩

/-- With the listing its plan is carried out. -/
theorem pruned_of_ok {dryRun : Bool} {files : List RemoteFile}
    (h : (p.listed repository unpublished reply server).answer = .ok files) :
    ∃ log, (p.pruned repository keep unpublished reply server dryRun).server.2 =
        (p.listed repository unpublished reply server).server.2 ++ log ∧
      Trace (p.carryOut repository dryRun (plan files keep)) log
        (p.pruned repository keep unpublished reply server dryRun).answer := by
  rw [Publisher.listed] at h
  rw [Publisher.listed, Publisher.pruned, Publisher.prune]
  exact trace_play_andThen (fun files => p.carryOut repository dryRun (plan files keep)) h

/-- A real run deletes the files of its plan, one after the other. -/
theorem course_pruned {files : List RemoteFile}
    (h : (p.listed repository unpublished reply server).answer = .ok files) :
    ∃ log verdict, (p.pruned repository keep unpublished reply server false).server.2 =
        (p.listed repository unpublished reply server).server.2 ++ log ∧
      (deletions p repository).Course (plan files keep).delete log verdict ∧
      (p.pruned repository keep unpublished reply server false).answer =
        verdict.map fun () => plan files keep := by
  obtain ⟨log, hlog, htrace⟩ := pruned_of_ok h
  obtain ⟨verdict, hcourse, hanswer⟩ := course_carryOut htrace
  exact ⟨log, verdict, hlog, hcourse, hanswer⟩

/-- A real run that succeeds has deleted all files of its plan. -/
theorem requests_of_pruned {files : List RemoteFile} {answer : Retention.Plan}
    (h : (p.listed repository unpublished reply server).answer = .ok files)
    (hok : (p.pruned repository keep unpublished reply server false).answer = .ok answer) :
    answer = plan files keep ∧
      ∃ log, (p.pruned repository keep unpublished reply server false).server.2 =
          (p.listed repository unpublished reply server).server.2 ++ log ∧
        log.map (fun x => .ok x.1) = (plan files keep).delete.map (deletions p repository).request ∧
        ∀ x ∈ log, isDone x.2 = true := by
  obtain ⟨log, verdict, hlog, hcourse, hanswer⟩ := course_pruned h
  rw [hok] at hanswer
  cases verdict with
  | error e => cases hanswer
  | ok => exact ⟨Except.ok.inj hanswer, log, hlog, hcourse.requests_of_ok, hcourse.complete.2⟩

end

/-- **Trying out, pruning and pruning again.** A run asks for the listing, at most once, and if it
does not get it does nothing else. With the listing a dry run asks nothing more, and answers with
the plan. A real run then makes the requests that delete the files of the plan, in their order and
from the first on. Either all of them are answered as done, and the answer is the plan of the dry
run; or the last one is the first that is not, or the next file has no request, and the answer is
the error of that file. However many files are deleted, from the first on, what is left of the
listing has what is left of the plan: a later run that finds it and succeeds deletes just the
others. -/
theorem prune_resumes {σ : Type} (p : Publisher) (repository : String) (keep : Nat)
    (unpublished : Bool) (reply : σ → Request → Reply × σ) (server : σ) :
    let listed := p.listed repository unpublished reply server
    let pruned := p.pruned repository keep unpublished reply server
    let request := fun f : RemoteFile => p.client.deletionRequest repository f.path
    (listed.server.2.length ≤ 1 ∧ ∀ x ∈ listed.server.2, x.1.method = .get) ∧
    (∀ e, listed.answer = .error e → ∀ dryRun,
      (pruned dryRun).server.2 = listed.server.2 ∧ (pruned dryRun).answer = .error e) ∧
    ∀ files, listed.answer = .ok files → listed.server.2.length = 1 ∧
      ((pruned true).server.2 = listed.server.2 ∧ (pruned true).answer = .ok (plan files keep)) ∧
      (∃ log, (pruned false).server.2 = listed.server.2 ++ log ∧
        log.map (fun x => .ok x.1) <+: (plan files keep).delete.map request ∧
        ((pruned false).answer = .ok (plan files keep) ∧
            log.length = (plan files keep).delete.length ∧ (∀ x ∈ log, isDone x.2 = true) ∨
          ∃ e, (pruned false).answer = .error e ∧
            ((deletions p repository).StoppedByReply (plan files keep).delete log e ∨
              (deletions p repository).StoppedBeforeItem (plan files keep).delete log e))) ∧
      ((files.map (·.path)).Nodup → ∀ i,
        let left := without files ((plan files keep).delete.take i)
        let rest := { plan files keep with delete := (plan files keep).delete.drop i }
        plan left keep = rest ∧
        ∀ (τ : Type) (reply : τ → Request → Reply × τ) (server : τ) answer,
          (p.listed repository unpublished reply server).answer = .ok left →
          (p.pruned repository keep unpublished reply server false).answer = .ok answer →
          answer = rest ∧ ∃ log,
            (p.pruned repository keep unpublished reply server false).server.2 =
              (p.listed repository unpublished reply server).server.2 ++ log ∧
            log.map (fun x => .ok x.1) = rest.delete.map request) := by
  dsimp only
  refine ⟨⟨length_trace_files trace_listed, (trace_files trace_listed).1⟩, ?_, ?_⟩
  · intro e he dryRun
    exact pruned_of_error he
  · intro files hfiles
    refine ⟨?_, ?_, ?_, ?_⟩
    · obtain ⟨request, r, body, hone, -⟩ := (trace_files trace_listed).2 files hfiles
      exact congrArg List.length hone
    · obtain ⟨log, hlog, htrace⟩ := pruned_of_ok hfiles
      obtain ⟨rfl, hanswer⟩ := trace_carryOut_dry htrace
      rw [List.append_nil] at hlog
      exact ⟨hlog, hanswer⟩
    · obtain ⟨log, verdict, hlog, hcourse, hanswer⟩ := course_pruned hfiles
      refine ⟨log, hlog, hcourse.requests, ?_⟩
      cases verdict with
      | ok => exact .inl ⟨hanswer, hcourse.complete⟩
      | error e => exact .inr ⟨e, hanswer, hcourse.stopped⟩
    · intro hpaths i
      have hrest := Retention.plan_without_deleted hpaths keep i
      refine ⟨hrest, ?_⟩
      intro τ reply server answer hleft hok
      obtain ⟨hanswer, log, hlog, hrequests, -⟩ := requests_of_pruned hleft hok
      rw [hrest] at hanswer hrequests
      exact ⟨hanswer, log, hlog, hrequests⟩

theorem listed_local {listing : Bytes} {files : List RemoteFile}
    (hparse : Listing.parse? listing = some files) :
    (localPublisher.listed "ubuntu" false (storing listing) ()).answer = .ok files := by
  obtain ⟨url, hfiles⟩ := files_local
  rw [Publisher.listed, hfiles]
  show Client.readBody (.answered ⟨200, "OK", some listing⟩) url Listing.parse? = .ok files
  simp [Client.readBody, Client.bodyOf, Response.isSuccess, hparse]

theorem deletionRequest_local {path : String} (segments : List String)
    (hurl : (localPublisher.client.contentUrl "ubuntu" path).toOption = some (localUrl segments))
    (hsend : isSendable (deletion segments) = true) :
    localPublisher.client.deletionRequest "ubuntu" path = .ok (deletion segments) := by
  unfold Client.deletionRequest
  cases hu : localPublisher.client.contentUrl "ubuntu" path with
  | error e =>
    rw [hu] at hurl
    cases hurl
  | ok u =>
    rw [hu] at hurl
    obtain rfl : u = localUrl segments := Option.some.inj hurl
    exact if_pos hsend

/-- A listing of two files of which one is kept, and a run that finds the other one gone. -/
theorem prune_resumes_pair :
    let nine : RemoteFile := { path := "demo-1.9-1.fc30.x86_64.rpm" }
    let ten : RemoteFile := { path := "demo-1.10-1.fc30.x86_64.rpm" }
    let listing := Text.utf8
      "[\x7b\"path\":\"demo-1.9-1.fc30.x86_64.rpm\"\x7d,\x7b\"path\":\"demo-1.10-1.fc30.x86_64.rpm\"\x7d]"
    let pruned := localPublisher.pruned "ubuntu" 1 false (storing listing) ()
    let rest := Text.utf8 "[\x7b\"path\":\"demo-1.10-1.fc30.x86_64.rpm\"\x7d]"
    let rerun := localPublisher.pruned "ubuntu" 1 false (storing rest) () false
    (pruned true).answer = .ok ⟨[ten], [nine], []⟩ ∧ (pruned true).server.2.length = 1 ∧
    (∃ log, (pruned false).server.2 = (pruned true).server.2 ++ log ∧ log.map (fun x => .ok x.1) <+:
      [(.ok (deletion ["content", "o", "ubuntu", nine.path]) : Except Error Request)]) ∧
    rerun.answer = .ok ⟨[ten], [], []⟩ ∧ rerun.server.2.length = 1 := by
  intro nine ten listing pruned rest rerun
  have hold : Retention.keyOf? nine =
      some ⟨"demo.fc30.x86_64", Retention.versionKey "1.9-1"⟩ := by decide +kernel
  have hnew : Retention.keyOf? ten =
      some ⟨"demo.fc30.x86_64", Retention.versionKey "1.10-1"⟩ := by decide +kernel
  have hplan : plan [nine, ten] 1 = ⟨[ten], [nine], []⟩ :=
    Retention.plan_pair hold hnew rfl (by decide +kernel)
  have hlisted := listed_local (show Listing.parse? listing = some [nine, ten] by decide +kernel)
  have hleft := listed_local (show Listing.parse? rest = some [ten] by decide +kernel)
  obtain ⟨-, -, hresumes⟩ :=
    prune_resumes localPublisher "ubuntu" 1 false (storing listing) ()
  obtain ⟨hone, ⟨hserver, hanswer⟩, ⟨log, hlog, hrequests, -⟩, hrerun⟩ := hresumes _ hlisted
  rw [hplan] at hanswer hrequests
  have hrequest : localPublisher.client.deletionRequest "ubuntu" nine.path =
      .ok (deletion ["content", "o", "ubuntu", nine.path]) :=
    deletionRequest_local _ (by decide +kernel) (by decide +kernel)
  have hgone : without [nine, ten] [nine] = [ten] := by decide
  -- what is left is planned as before, so that the later run has nothing to delete
  obtain ⟨hplanned, hlater⟩ := hrerun (by decide) 1
  rw [hplan] at hplanned hlater
  obtain ⟨-, -, hagain⟩ := prune_resumes localPublisher "ubuntu" 1 false (storing rest) ()
  obtain ⟨hone', -, ⟨_, -, -, hends⟩, -⟩ := hagain _ hleft
  have hnone : (plan [ten] 1).delete = [] := congrArg Retention.Plan.delete hplanned
  rcases hends with ⟨hok, -⟩ | ⟨e, -, ⟨done, last, f, -, -, hf, -⟩ | ⟨-, f, hf, -⟩⟩
  · obtain ⟨hplan', log', hlog', hrequests'⟩ := hlater Unit (storing rest) () _ hleft hok
    have hempty : log' = [] := List.map_eq_nil_iff.1 hrequests'
    rw [hempty, List.append_nil] at hlog'
    refine ⟨hanswer, ?_, ⟨log, ?_, ?_⟩, ?_, ?_⟩
    · rw [hserver, hone]
    · rw [hlog, hserver]
    · simpa [hrequest] using hrequests
    · rw [hok, hplan']
      rfl
    · rw [hlog', hone']
  · rw [hnone] at hf
    cases hf
  · rw [hnone] at hf
    cases hf

end Courier.Publishing
