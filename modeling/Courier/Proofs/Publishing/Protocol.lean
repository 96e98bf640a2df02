import Courier.Proofs.FileTree.LongPath
import Courier.Proofs.Publishing.Steps

/-! What publishing sends to a server.

A session follows steps when its exchanges are a run of them and its summary tells just what came
of each (`Follows`). Creating a version where needed, uploading a file, and one after the other
for all files follow the steps of the plan; so the requests of a session, its answer and its
summary are known from the plan and the replies (`publish_follows_steps`). -/
namespace Courier.Publishing

open Http (Request Reply Session)
open Http.Session (Log Trace noting trace_done_iff trace_print_iff trace_send_iff trace_bind_iff
  trace_andThen_iff trace_sayAll_iff trace_play)

/-! ### What steps leave behind -/

/-- The versions that steps create. -/
def created (steps : List Step) : List (String × String) :=
  steps.filterMap fun
    | .create release => some release
    | .put _ => none

/-- The files of the uploads whose replies are of some kind. -/
def stored (kind : Reply → Bool) (steps : List Step) (log : Log) : List Path :=
  (steps.zip log).filterMap fun
    | (.put u, _, reply) => if kind reply then some u.file else none
    | (.create _, _) => none

/-- A summary behind steps that are all accepted. -/
def Summary.after (s : Summary) (steps : List Step) (log : Log) : Summary :=
  { s with
    versions := s.versions ++ created steps
    uploaded := s.uploaded ++ stored fresh steps log
    conflicts := s.conflicts ++ stored (fun reply => !fresh reply) steps log }

theorem stored_append (kind : Reply → Bool) {steps : List Step} {log : Log}
    (h : log.length = steps.length) (later : List Step) (added : Log) :
    stored kind (steps ++ later) (log ++ added) =
      stored kind steps log ++ stored kind later added := by
  unfold stored
  rw [List.zip_append h.symm, List.filterMap_append]

/-- A summary that was brought up to date twice is up to date with all steps. -/
theorem Summary.after_append (s : Summary) {steps : List Step} {log : Log}
    (h : log.length = steps.length) (later : List Step) (added : Log) :
    s.after (steps ++ later) (log ++ added) = (s.after steps log).after later added := by
  simp only [Summary.after, created, List.filterMap_append, stored_append _ h, List.append_assoc]

/-! ### Following steps -/

/-- Whatever the replies, the exchanges of a session are a run of the steps, and its answer tells
what came of them. -/
def Follows (p : Publisher) (tree : FileTree) (steps : List Step) (s : Summary)
    (session : Session (Except Error Summary)) : Prop :=
  ∀ log answer, Trace session log answer →
    ∃ verdict, Run p tree steps log verdict ∧ answer = verdict.map fun () => s.after steps log

theorem follows_none (p : Publisher) (tree : FileTree) (s : Summary) :
    Follows p tree [] s (.done (.ok s)) := by
  intro log answer h
  obtain ⟨rfl, rfl⟩ := trace_done_iff.1 h
  refine ⟨.ok (), .finished, ?_⟩
  simp [Except.map, Summary.after, created, stored]

/-- A session that follows its steps and then goes on with another follows the steps of both. -/
theorem Follows.andThen {p : Publisher} {tree : FileTree} {steps later : List Step} {s : Summary}
    {session : Session (Except Error Summary)} {next : Summary → Session (Except Error Summary)}
    (h : Follows p tree steps s session)
    (hnext : ∀ log, Follows p tree later (s.after steps log) (next (s.after steps log))) :
    Follows p tree (steps ++ later) s (session.andThen next) := by
  intro log answer htrace
  rcases trace_andThen_iff.1 htrace with ⟨e, hfirst, rfl⟩ | ⟨before, s', after, hfirst, hrest, rfl⟩
  · obtain ⟨verdict, hrun, he⟩ := h _ _ hfirst
    cases verdict with
    | error e' =>
      obtain rfl : e = e' := Except.error.inj he
      exact ⟨.error e, hrun.append_error, rfl⟩
    | ok => cases he
  · obtain ⟨verdict, hrun, hs⟩ := h _ _ hfirst
    cases verdict with
    | error e => cases hs
    | ok =>
      obtain rfl : s' = s.after steps before := Except.ok.inj hs
      obtain ⟨verdict, hlater, hanswer⟩ := hnext before _ _ hrest
      refine ⟨verdict, hrun.append_ok hlater, ?_⟩
      rw [hanswer, s.after_append hrun.complete.1]

/-! ### Single steps -/

/-- An exchange sends its one request, or nothing where none can be made. -/
theorem trace_exchangeText {c : Client} {method : Http.Method} {url contentType : String}
    {body : Bytes} {log : Log} {reply : Reply}
    (h : Trace (c.exchangeText method url (some contentType) body) log reply) :
    (c.request method url contentType body = .error .transport ∧ log = [] ∧ reply = .lost) ∨
      ∃ r, c.request method url contentType body = .ok r ∧ log = [(r, reply)] := by
  unfold Client.exchangeText at h
  unfold Client.request
  cases hurl : Url.parse url with
  | error e =>
    rw [hurl] at h
    obtain ⟨rfl, rfl⟩ := trace_done_iff.1 h
    exact .inl ⟨rfl, rfl, rfl⟩
  | ok u =>
    have hexchange : Trace (Client.exchange (some (c.requestTo method u (some contentType) body)))
        log reply := by rwa [hurl] at h
    rw [exchange_some] at hexchange
    by_cases hsend : isSendable (c.requestTo method u (some contentType) body) = true
    · rw [if_pos hsend, trace_send_iff] at hexchange
      exact .inr ⟨_, if_pos hsend, hexchange⟩
    · rw [if_neg hsend, trace_done_iff] at hexchange
      exact .inl ⟨if_neg hsend, hexchange⟩

/-- A request whose reply decides between two answers. -/
theorem trace_settled {c : Client} {method : Http.Method} {url contentType : String}
    {body : Bytes} {α : Type} {new existing : α} {log : Log} {answer : Except Error α}
    (h : Trace ((c.exchangeText method url (some contentType) body).bind fun reply =>
      .done (Client.settle reply url (Client.outcome new existing))) log answer) :
    (∃ e, c.request method url contentType body = .error e ∧ log = [] ∧ answer = .error e) ∨
      ∃ r reply, c.request method url contentType body = .ok r ∧ log = [(r, reply)] ∧
        answer = if accepted reply then .ok (if fresh reply then new else existing)
          else .error (refusal url reply) := by
  obtain ⟨before, reply, after, hexchange, hdone, rfl⟩ := trace_bind_iff.1 h
  obtain ⟨rfl, rfl⟩ := trace_done_iff.1 hdone
  rw [List.append_nil, settle_outcome]
  rcases trace_exchangeText hexchange with ⟨hrequest, rfl, rfl⟩ | ⟨r, hrequest, rfl⟩
  · exact .inl ⟨.transport, hrequest, rfl, rfl⟩
  · exact .inr ⟨r, reply, hrequest, rfl, rfl⟩

/-- A step is followed by a session that makes its request and then notes what came of it. -/
theorem follows_step {p : Publisher} {tree : FileTree} {step : Step} {s : Summary}
    {method : Http.Method} {contentType : String} {body : Bytes} {α : Type} {new existing : α}
    {next : α → Session (Except Error Summary)} (summary : α → Summary)
    (hrequest : step.request p tree = p.client.request method (step.url p) contentType body)
    (hnext : ∀ status, ∃ line, next status = .print line (.done (.ok (summary status))))
    (hsummary : ∀ r reply,
      summary (if fresh reply then new else existing) = s.after [step] [(r, reply)]) :
    Follows p tree [step] s
      (((p.client.exchangeText method (step.url p) (some contentType) body).bind fun reply =>
        .done (Client.settle reply (step.url p) (Client.outcome new existing))).andThen next) := by
  intro log answer h
  rcases trace_andThen_iff.1 h with ⟨e, hsettled, rfl⟩ | ⟨_, status, _, hsettled, hdone, rfl⟩
  · rcases trace_settled hsettled with ⟨e', hmade, rfl, he⟩ | ⟨r, reply, hmade, rfl, he⟩
    · obtain rfl : e = e' := Except.error.inj he
      exact ⟨.error e, .unmade (hrequest.trans hmade), rfl⟩
    · by_cases hreply : accepted reply = true
      · rw [if_pos hreply] at he
        cases he
      · rw [if_neg hreply] at he
        obtain rfl := Except.error.inj he
        exact ⟨_, .refused (hrequest.trans hmade) (Bool.eq_false_iff.2 hreply), rfl⟩
  · obtain ⟨line, hline⟩ := hnext status
    rw [hline, trace_print_iff] at hdone
    obtain ⟨rfl, rfl⟩ := trace_done_iff.1 hdone
    rcases trace_settled hsettled with ⟨e', hmade, rfl, he⟩ | ⟨r, reply, hmade, rfl, he⟩
    · cases he
    · by_cases hreply : accepted reply = true
      · rw [if_pos hreply] at he
        obtain rfl := Except.ok.inj he
        refine ⟨.ok (), .accepted (hrequest.trans hmade) hreply .finished, ?_⟩
        rw [hsummary r reply]
        rfl
      · rw [if_neg hreply] at he
        cases he

/-- A version that is known is not created again. -/
theorem ensureVersion_follows (p : Publisher) (tree : FileTree) (s : Summary) (u : Upload) :
    Follows p tree (if s.versions.contains u.release then [] else [.create u.release]) s
      (p.ensureVersion s u) := by
  rw [List.contains_eq_mem]
  by_cases hknown : u.release ∈ s.versions
  · have hsession : p.ensureVersion s u = .done (.ok s) := if_pos hknown
    rw [if_pos (decide_eq_true hknown), hsession]
    exact follows_none p tree s
  · rw [if_neg (by simpa using hknown)]
    unfold Publisher.ensureVersion Client.createVersion
    rw [if_neg (show (u.repository, u.version) ∉ s.versions from hknown)]
    have hurl : p.client.url (p.client.packagePath u.repository p.settings.package ++ "/versions") =
        (Step.create u.release).url p := rfl
    simp only [hurl]
    refine follows_step (fun _ => { s with versions := s.versions ++ [u.release] }) rfl
      (fun _ => ⟨_, rfl⟩) fun r reply => ?_
    simp only [Summary.after, created, stored, List.filterMap_cons, List.filterMap_nil,
      List.zip_cons_cons, List.zip_nil_right, List.append_nil]

/-- Uploading a file is one step. -/
theorem putFile_follows (p : Publisher) (tree : FileTree) (s : Summary) (u : Upload) :
    Follows p tree [.put u] s (p.putFile tree s u) := by
  unfold Publisher.putFile
  cases hread : readFile tree u.file with
  | error e =>
    intro log answer h
    obtain ⟨rfl, rfl⟩ := trace_done_iff.1 h
    have hrequest : (Step.put u).request p tree = .error e := by simp only [Step.request, hread]
    exact ⟨.error e, .unmade hrequest, rfl⟩
  | ok data =>
    have hrequest : (Step.put u).request p tree =
        p.client.request .put ((Step.put u).url p) "application/binary" data := by
      simp only [Step.request, hread]
    refine follows_step (fun status =>
      if status = .uploaded then { s with uploaded := s.uploaded ++ [u.file] }
      else { s with conflicts := s.conflicts ++ [u.file] }) hrequest ?_ fun r reply => ?_
    · intro status
      cases status with
      | uploaded => exact ⟨_, rfl⟩
      | conflict => exact ⟨_, rfl⟩
    · by_cases hfresh : fresh reply = true
      · simp [Summary.after, created, stored, hfresh]
      · simp [Summary.after, created, stored, hfresh]

/-! ### Whole plans -/

/-- The steps of a plan. -/
def UploadPlan.steps (plan : UploadPlan) : List Step := stepsAfter [] plan.uploads

/-- The summary of a plan of which all steps were accepted. -/
def UploadPlan.summary (plan : UploadPlan) (log : Log) : Summary :=
  { versions := (plan.uploads.map Upload.release).eraseDups
    uploaded := stored fresh plan.steps log
    conflicts := stored (fun reply => !fresh reply) plan.steps log
    skipped := plan.rejected.map (·.1) ++ plan.archives }

theorem eraseDups_concat (earlier : List (String × String)) (release : String × String) :
    (earlier ++ [release]).eraseDups =
      earlier.eraseDups ++ if earlier.contains release then [] else [release] := by
  rw [List.eraseDups_append]
  by_cases hknown : release ∈ earlier
  · simp [List.removeAll, hknown]
  · simp [List.removeAll, hknown, List.eraseDups_cons]

theorem created_append (steps later : List Step) :
    created (steps ++ later) = created steps ++ created later := List.filterMap_append

theorem created_unless_known (earlier : List (String × String)) (release : String × String) :
    created (if earlier.contains release then [] else [.create release]) =
      if earlier.contains release then [] else [release] := by
  split <;> rfl

/-- What is created goes behind what was, each release at its first use. -/
theorem created_stepsAfter (earlier : List (String × String)) (uploads : List Upload) :
    earlier.eraseDups ++ created (stepsAfter earlier uploads) =
      (earlier ++ uploads.map Upload.release).eraseDups := by
  induction uploads generalizing earlier with
  | nil => simp [stepsAfter, created]
  | cons u rest ih =>
    have hput : created (.put u :: stepsAfter (earlier ++ [u.release]) rest) =
        created (stepsAfter (earlier ++ [u.release]) rest) := rfl
    rw [stepsAfter, created_append, created_unless_known, hput, ← List.append_assoc,
      ← eraseDups_concat, ih, List.map_cons, List.append_assoc, List.singleton_append]

/-- Uploading all files takes the steps of the plan, in their order. -/
theorem putAll_follows (p : Publisher) (tree : FileTree) (earlier : List (String × String))
    (uploads : List Upload) (s : Summary) (h : s.versions = earlier.eraseDups) :
    Follows p tree (stepsAfter earlier uploads) s (p.putAll tree s uploads) := by
  induction uploads generalizing earlier s with
  | nil => exact follows_none p tree s
  | cons u rest ih =>
    have hensure := ensureVersion_follows p tree s u
    have hknown : s.versions.contains u.release = earlier.contains u.release := by
      rw [h]
      simp only [List.contains_eq_mem, List.mem_eraseDups]
    rw [hknown] at hensure
    refine hensure.andThen fun log => ?_
    refine (putFile_follows p tree _ u).andThen fun log' => ih _ _ ?_
    rw [eraseDups_concat, ← h]
    show s.versions ++ created _ ++ [] = _
    rw [created_unless_known, List.append_nil]

/-- A plan without uploads is an error at once; any other is carried out step by step, and its
summary tells what came of them. -/
theorem trace_publishPlan {p : Publisher} {tree : FileTree} {directory : Path} {plan : UploadPlan}
    {log : Log} {answer : Except Error Summary}
    (h : Trace (p.publishPlan tree directory plan) log answer) :
    (plan.uploads = [] ∧ log = [] ∧ answer = .error (.nothingToPublish directory)) ∨
    (plan.uploads ≠ [] ∧ ∃ verdict, Run p tree plan.steps log verdict ∧
      answer = verdict.map fun () => plan.summary log) := by
  obtain ⟨before, _, after, hsay, hrest, rfl⟩ := trace_bind_iff.1 h
  obtain rfl := trace_sayAll_iff.1 hsay
  rw [List.nil_append]
  by_cases hnone : plan.uploads = []
  · rw [if_pos hnone, trace_done_iff] at hrest
    exact .inl ⟨hnone, hrest⟩
  · rw [if_neg hnone] at hrest
    have hfollows := putAll_follows p tree [] plan.uploads
      { skipped := plan.rejected.map (·.1) ++ plan.archives } rfl
    obtain ⟨verdict, hrun, hanswer⟩ := hfollows _ _ hrest
    have hversions : created plan.steps = (plan.uploads.map Upload.release).eraseDups := by
      simpa [UploadPlan.steps] using created_stepsAfter [] plan.uploads
    refine .inr ⟨hnone, verdict, hrun, ?_⟩
    rw [hanswer, UploadPlan.summary, ← hversions]
    rfl

/-- A plan with a file that cannot be read is not published, though nothing is refused. -/
theorem play_of_unreadable {σ : Type} {p : Publisher} {tree : FileTree} {directory : Path}
    {hint : Option Repository} {files : List Path} {u : Upload} {e : Error}
    (hcollect : collect tree directory = .ok files)
    (hu : u ∈ (planUploads p.settings hint files).uploads) (hread : readFile tree u.file = .error e)
    {reply : σ → Request → Reply × σ} (haccept : ∀ state r, accepted (reply state r).1 = true)
    (server : σ) :
    let played := Session.play (noting reply) (server, []) (p.publish tree directory hint)
    (∀ x ∈ played.server.2, accepted x.2 = true) ∧ ∀ s, played.answer ≠ .ok s := by
  intro played
  obtain ⟨log, hlog, htrace, hreplies⟩ :=
    trace_play reply server [] (p.publish tree directory hint)
  have hlog : played.server.2 = log := hlog
  have htrace : Trace (p.publish tree directory hint) log played.answer := htrace
  refine ⟨?_, fun s hs => ?_⟩
  · intro x hx
    obtain ⟨state, hstate⟩ := hreplies x (hlog ▸ hx)
    rw [← hstate]
    exact haccept state x.1
  · rw [Publisher.publish, hcollect, hs] at htrace
    rcases trace_publishPlan htrace with ⟨-, -, hend⟩ | ⟨-, verdict, hrun, hend⟩
    · cases hend
    cases verdict with
    | error => cases hend
    | ok =>
      obtain ⟨r, hrequest⟩ : ∃ r, (Step.put u).request p tree = .ok r :=
        hrun.made (put_mem_stepsAfter hu [])
      rw [Step.request, hread] at hrequest
      cases hrequest

/-! ### A tree of one package -/

/-- A name but for its last letter, which shows that it does not end with a blank. -/
def demoFront : List Char := "demo-1.0-1.fc30.x86_64.rp".toList

def demoFile : Bytes := (demoFront ++ ['m']).map fun c => UInt8.ofNat c.toNat

def demoTree : FileTree := ⟨.dir [(demoFile, .file [])], []⟩

def demoArtifact : Artifact :=
  { basename := "demo-1.0-1.fc30.x86_64.rpm", repository := .fedora, name := "demo",
    version := "1.0-1", arch := "x86_64", number := ⟨1, 0, "", some "1"⟩,
    family := .rpm "1" "fc30" }

def demoPublisher : Publisher :=
  { client := { authorization := "Basic dTpw", apiUrl := "http://server.test:8080", owner := "o" }
    settings := { apiUrl := "http://server.test:8080", user := some "u", pass := some "p",
                  org := some "o" } }

/-- A server that accepts everything. -/
def acceptAll (server : Unit) (_ : Request) : Reply × Unit :=
  (.answered ⟨200, "OK", some []⟩, server)

theorem collect_demo (n : Nat) (hn : n < FileTree.maxPathSize) (hslash : 0 < n) :
    collect demoTree (FileTree.here n) = .ok [FileTree.here n ++ demoFile] := by
  rw [collect, demoTree, FileTree.files_here hn hslash]

theorem classify_demo (n : Nat) (hslash : 0 < n) :
    Artifact.classify (Path.text (FileTree.here n ++ demoFile)) none =
      .ok (.package demoArtifact) :=
  FileTree.classify_here hslash (by decide) (by decide) (by decide) (by decide) (by decide)
    (by decide +kernel) (by decide +kernel)

theorem plan_of_classify {settings : Settings} {hint : Option Repository} {file : Path}
    {a : Artifact} (h : Artifact.classify file.text hint = .ok (.package a)) :
    planUploads settings hint [file] = ⟨[uploadOf settings file a], [], []⟩ := by
  simp only [planUploads, fate, h, List.map_cons, List.map_nil, List.filterMap_cons,
    List.filterMap_nil]

theorem plan_demo (n : Nat) (hslash : 0 < n) :
    planUploads demoPublisher.settings none [FileTree.here n ++ demoFile] =
      ⟨[uploadOf demoPublisher.settings (FileTree.here n ++ demoFile) demoArtifact], [], []⟩ :=
  plan_of_classify (classify_demo n hslash)

theorem read_demo_of_long {n : Nat} (hn : 4069 ≤ n) :
    readFile demoTree (FileTree.here n ++ demoFile) =
      .error (.unreadable (FileTree.here n ++ demoFile) .nameTooLong) := by
  have hzero : 0 ∉ FileTree.here n ++ demoFile := by
    rw [List.mem_append, not_or]
    exact ⟨FileTree.zero_not_mem_here n, by decide⟩
  have hsize : demoFile.length = 26 := by decide
  have hlength : FileTree.maxPathSize < (FileTree.here n ++ demoFile).length := by
    rw [List.length_append, FileTree.length_here, hsize, FileTree.maxPathSize]
    omega
  rw [readFile, FileTree.read_of_long demoTree hzero hlength]

theorem collect_missing : collect demoTree [0x78] = .error (.unlisted [0x78] .notFound) := by
  have hchild : (FileTree.Node.dir [(demoFile, .file [])]).child? [0x78] = none := by
    rw [FileTree.Node.child?, List.find?_cons_of_neg (by decide)]
    rfl
  have hparts : Path.parts [0x78] = [[0x78]] := by decide
  have hlocate : FileTree.locate demoTree false [0x78] = .error .notFound := by
    rw [FileTree.locate, if_neg (by decide), if_neg (by decide), if_neg (by decide), hparts,
      FileTree.follow]
    show (if _ then _ else if _ then _ else if _ then _ else _) = _
    rw [if_neg (by decide), if_neg (by decide), if_neg (by decide)]
    simp only [hchild]
  rw [collect, FileTree.files, hlocate]

/-! ### Sessions -/

/-- **Publishing follows the steps of its plan.** If the files cannot be listed, or none of them
is a package, nothing is sent. Otherwise the requests are those of the steps, in order and from
the first on. The session ends well just when every step was taken and every reply accepted, and
the summary tells then what came of each; it ends with an error at the first reply that is not
accepted, or in front of the first step of which no request can be made. -/
theorem publish_follows_steps {σ : Type} (p : Publisher) (tree : FileTree) (directory : Path)
    (hint : Option Repository) (reply : σ → Request → Reply × σ) (server : σ) :
    let played := Session.play (noting reply) (server, []) (p.publish tree directory hint)
    let log := played.server.2
    (∀ e, collect tree directory = .error e → log = [] ∧ played.answer = .error e) ∧
    ∀ files, collect tree directory = .ok files →
      let plan := planUploads p.settings hint files
      (plan.uploads = [] → log = [] ∧ played.answer = .error (.nothingToPublish directory)) ∧
      (plan.uploads ≠ [] →
        log.map (fun x => .ok x.1) <+: plan.steps.map (Step.request p tree) ∧
        ((∃ s, played.answer = .ok s) ↔
          log.length = plan.steps.length ∧ ∀ x ∈ log, accepted x.2 = true) ∧
        (∀ s, played.answer = .ok s → s = plan.summary log) ∧
        ∀ e, played.answer = .error e →
          StoppedByReply p tree plan.steps log e ∨ StoppedBeforeStep p tree plan.steps log e) := by
  intro played log
  obtain ⟨added, hadded, htrace, -⟩ := trace_play reply server [] (p.publish tree directory hint)
  obtain rfl : log = added := hadded
  have hanswer : Trace (p.publish tree directory hint) log played.answer := htrace
  generalize played.answer = answer at hanswer ⊢
  clear_value log
  refine ⟨fun e hcollect => ?_, fun files hcollect => ?_⟩
  · rw [Publisher.publish, hcollect] at hanswer
    exact trace_done_iff.1 hanswer
  rw [Publisher.publish, hcollect] at hanswer
  intro plan
  rcases trace_publishPlan hanswer with ⟨hnone, hend⟩ | ⟨hsome, verdict, hrun, rfl⟩
  · exact ⟨fun _ => hend, fun h => absurd hnone h⟩
  refine ⟨fun h => absurd h hsome, fun _ => ⟨hrun.requests, ?_⟩⟩
  cases verdict with
  | ok =>
    have hcomplete := hrun.complete
    refine ⟨⟨fun _ => hcomplete, fun _ => ⟨_, rfl⟩⟩, fun s hs => (Except.ok.inj hs).symm, ?_⟩
    intro e he
    cases he
  | error e =>
    have hstopped := hrun.stopped
    refine ⟨⟨?_, ?_⟩, ?_, fun e' he => Except.error.inj he ▸ hstopped⟩
    · rintro ⟨s, hs⟩
      cases hs
    · rintro ⟨hlength, hall⟩
      rcases hstopped with hreply | hstep
      · exact absurd hall hreply.not_all_accepted
      · exact absurd hlength (Nat.ne_of_lt hstep.length_lt)
    · intro s hs
      cases hs

theorem publish_follows_steps_demo :
    let played := Session.play (noting acceptAll) ((), [])
      (demoPublisher.publish demoTree (FileTree.here 1) none)
    let plan := planUploads demoPublisher.settings none [FileTree.here 1 ++ demoFile]
    collect demoTree (FileTree.here 1) = .ok [FileTree.here 1 ++ demoFile] ∧ plan.uploads ≠ [] ∧
    played.server.2.map (fun x => .ok x.1) <+: plan.steps.map (Step.request demoPublisher demoTree) ∧
    ∀ s, played.answer = .ok s → s = plan.summary played.server.2 := by
  intro played plan
  have hcollect := collect_demo 1 (by decide) (by decide)
  have hsome : plan.uploads ≠ [] := by
    show (planUploads _ _ _).uploads ≠ []
    rw [plan_demo 1 (by decide)]
    exact List.cons_ne_nil _ _
  have hsteps := publish_follows_steps demoPublisher demoTree (FileTree.here 1) none acceptAll ()
  obtain ⟨hrequests, -, hsummary, -⟩ := (hsteps.2 _ hcollect).2 hsome
  exact ⟨hcollect, hsome, hrequests, hsummary⟩

/-- A file may be listed by a path that is too long for reading it: nothing is refused then, and
publishing fails. A directory that is not there fails as such, not for want of packages. -/
theorem publish_fails_unrefused :
    (let long := FileTree.here 4094
    let played := Session.play (noting acceptAll) ((), []) (demoPublisher.publish demoTree long none)
    collect demoTree long = .ok [long ++ demoFile] ∧
      (planUploads demoPublisher.settings none [long ++ demoFile]).uploads ≠ [] ∧
      (∀ x ∈ played.server.2, accepted x.2 = true) ∧ ∀ s, played.answer ≠ .ok s) ∧
    (Session.play (noting acceptAll) ((), []) (demoPublisher.publish demoTree [0x78] none)).answer =
      .error (.unlisted [0x78] .notFound) := by
  constructor
  · have hcollect := collect_demo 4094 (by decide) (by decide)
    have hplan := plan_demo 4094 (by decide)
    have hread := read_demo_of_long (show 4069 ≤ 4094 by decide)
    generalize FileTree.here 4094 = long at hcollect hplan hread ⊢
    have hupload : uploadOf demoPublisher.settings (long ++ demoFile) demoArtifact ∈
        (planUploads demoPublisher.settings none [long ++ demoFile]).uploads := by
      rw [hplan]
      exact List.mem_singleton_self _
    exact ⟨hcollect, List.ne_nil_of_mem hupload,
      play_of_unreadable hcollect hupload hread (fun _ _ => rfl) ()⟩
  · rw [Publisher.publish, collect_missing]
    rfl

end Courier.Publishing
