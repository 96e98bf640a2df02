import Courier.Proofs.Publishing.Protocol

/-! Publishing again, after it was broken off.

A server keeps the first thing that is sent to a slot, and tells of any other that the slot is
taken. What publishing sends is known ahead, and a run that is broken off has sent a part of it, from
the front. Adding all of it behind such a part leaves what adding it once would leave
(`Store.addAll_of_prefix`). So after any number of runs, one that succeeds leaves what a single run
leaves that nothing goes wrong in (`publish_rerun`). -/
namespace Courier.Publishing

open Http (Request Reply Session)
open Http.Session (Log Trace play trace_done_iff)

/-! ### What a server keeps -/

/-- Where something is kept: a target, and for versions, which are all created at one target, a
name. -/
structure Slot where
  target : String
  name : Option String
  deriving DecidableEq, Repr

/-- What a server holds. -/
abbrev Store := Slot → Option Bytes

/-- The slot of what a request sends. The name of a version is told by the body. -/
def slotOf (nameOf : Bytes → String) (r : Request) : Slot where
  target := r.url.target
  name := if r.method = .post then some (nameOf r.body) else none

namespace Store

variable (nameOf : Bytes → String)

/-- What is there already stays as it is. -/
def add (s : Store) (r : Request) : Store := fun slot =>
  (s slot).or (if slotOf nameOf r = slot then some r.body else none)

/-- What it holds after some requests. -/
def addAll (s : Store) (rs : List Request) : Store := rs.foldl (add nameOf) s

variable {nameOf} {s : Store}

theorem add_of_taken {r : Request} (h : (s (slotOf nameOf r)).isSome = true) :
    s.add nameOf r = s := by
  funext slot
  rw [add]
  by_cases hslot : slotOf nameOf r = slot
  · obtain ⟨body, hbody⟩ := Option.isSome_iff_exists.1 h
    rw [← hslot, hbody]
    rfl
  · rw [if_neg hslot, Option.or_none]

/-- Each slot has what it had, or else the first thing that is sent to it. -/
theorem addAll_apply (s : Store) (rs : List Request) (slot : Slot) :
    s.addAll nameOf rs slot =
      (s slot).or ((rs.find? fun r => decide (slotOf nameOf r = slot)).map (·.body)) := by
  induction rs generalizing s with
  | nil => exact (Option.or_none).symm
  | cons r rs ih =>
    show (s.add nameOf r).addAll nameOf rs slot = _
    rw [ih, add, Option.or_assoc, List.find?_cons]
    by_cases hslot : slotOf nameOf r = slot
    · rw [if_pos hslot, decide_eq_true hslot]
      rfl
    · rw [if_neg hslot, decide_eq_false hslot]
      rfl

theorem addAll_append (s : Store) (front rs : List Request) :
    s.addAll nameOf (front ++ rs) = (s.addAll nameOf front).addAll nameOf rs :=
  List.foldl_append

/-- Adding all of them again changes nothing. -/
theorem addAll_addAll (s : Store) (rs : List Request) :
    (s.addAll nameOf rs).addAll nameOf rs = s.addAll nameOf rs := by
  funext slot
  rw [addAll_apply, addAll_apply, Option.or_assoc, Option.or_self]

/-- Adding all behind a part from the front is adding all. -/
theorem addAll_of_prefix {front rs : List Request} (h : front <+: rs) :
    (s.addAll nameOf front).addAll nameOf rs = s.addAll nameOf rs := by
  obtain ⟨rest, rfl⟩ := h
  rw [addAll_append, addAll_addAll, addAll_append]

end Store

/-! ### A server that may fail -/

/-- How a server takes a request: as it should, with some reason and body in the answer; or with a
reply that is not accepted, whether it kept what was sent or not. -/
inductive Treatment where
  | proper (reason : String) (body : Bytes)
  | mishap (reply : Reply) (isRefusal : accepted reply = false) (isKept : Bool)

variable {σ : Type} (nameOf : Bytes → String) (treat : σ → Request → Treatment × σ)

def serve (server : σ × Store) (r : Request) : Reply × (σ × Store) :=
  match treat server.1 r with
  | (.proper reason body, next) =>
    if (server.2 (slotOf nameOf r)).isSome then
      (.answered ⟨409, reason, some body⟩, next, server.2)
    else (.answered ⟨201, reason, some body⟩, next, server.2.add nameOf r)
  | (.mishap reply _ isKept, next) =>
    (reply, next, if isKept then server.2.add nameOf r else server.2)

/-- Nothing goes wrong. -/
def Calm : Prop := ∀ state r, ∃ reason body, (treat state r).1 = .proper reason body

/-- What exchanges leave: what was sent is kept, unless the reply is not accepted. -/
inductive Served : Log → Store → Store → Prop where
  | nothing {s} : Served [] s s
  | kept {r reply log s t} : Served log (s.add nameOf r) t → Served ((r, reply) :: log) s t
  | refused {r reply log s t} : accepted reply = false → Served log s t →
      Served ((r, reply) :: log) s t

variable {nameOf} {treat}

/-- A request that is accepted is in the store; one that is not may be. -/
theorem serve_store (server : σ × Store) (r : Request) :
    (serve nameOf treat server r).2.2 = server.2.add nameOf r ∨
      accepted (serve nameOf treat server r).1 = false ∧
        (serve nameOf treat server r).2.2 = server.2 := by
  unfold serve
  split
  · split
    · next htaken => exact .inl (Store.add_of_taken htaken).symm
    · exact .inl rfl
  · next reply hrefusal isKept next _ =>
    cases isKept with
    | true => exact .inl rfl
    | false => exact .inr ⟨hrefusal, rfl⟩

/-- A server on which nothing goes wrong accepts everything, as new or as known. -/
theorem accepted_of_calm (h : Calm treat) (server : σ × Store) (r : Request) :
    accepted (serve nameOf treat server r).1 = true := by
  obtain ⟨reason, body, hproper⟩ := h server.1 r
  unfold serve
  split
  · split
    · rfl
    · rfl
  · next htreat =>
    rw [htreat] at hproper
    cases hproper

/-- What a session leaves is told by its exchanges. -/
theorem play_serve {α : Type} (nameOf : Bytes → String) (treat : σ → Request → Treatment × σ)
    (s : Session α) (server : σ × Store) :
    ∃ log, Trace s log (play (serve nameOf treat) server s).answer ∧
      Served nameOf log server.2 (play (serve nameOf treat) server s).server.2 ∧
      (Calm treat → ∀ x ∈ log, accepted x.2 = true) := by
  induction s generalizing server with
  | done answer => exact ⟨[], .done, .nothing, by simp⟩
  | print line next ih =>
    obtain ⟨log, htrace, hserved, hall⟩ := ih server
    exact ⟨log, .print htrace, hserved, hall⟩
  | ask request next ih =>
    obtain ⟨log, htrace, hserved, hall⟩ :=
      ih (serve nameOf treat server request).1 (serve nameOf treat server request).2
    refine ⟨(request, (serve nameOf treat server request).1) :: log, .ask htrace, ?_, ?_⟩
    · have hstore : _ ∨ accepted (serve nameOf treat server request).1 = false ∧ _ :=
        serve_store server request
      rcases hstore with hkept | ⟨hrefused, hsame⟩
      · rw [hkept] at hserved
        exact .kept hserved
      · rw [hsame] at hserved
        exact .refused hrefused hserved
    · intro hcalm
      exact List.forall_mem_cons.2 ⟨accepted_of_calm hcalm server request, hall hcalm⟩

/-- A run leaves a part of what it sent, from the front, and all of it if it succeeds. -/
theorem kept_of_run {p : Publisher} {tree : FileTree} {steps : List Step} {log : Log}
    {verdict : Except Error Unit} {s t : Store} (hrun : Run p tree steps log verdict)
    (hserved : Served nameOf log s t) :
    ∃ front, front <+: log.map (·.1) ∧ t = s.addAll nameOf front ∧
      (verdict = .ok () → front = log.map (·.1)) := by
  induction hrun generalizing s with
  | finished =>
    cases hserved
    exact ⟨[], List.nil_prefix, rfl, fun _ => rfl⟩
  | unmade =>
    cases hserved
    exact ⟨[], List.nil_prefix, rfl, nofun⟩
  | @refused step rest request reply hrequest hreply =>
    cases hserved with
    | kept hserved =>
      cases hserved
      exact ⟨[request], List.prefix_rfl, rfl, nofun⟩
    | refused _ hserved =>
      cases hserved
      exact ⟨[], List.nil_prefix, rfl, nofun⟩
  | @accepted step rest request reply log verdict hrequest hreply _ ih =>
    cases hserved with
    | kept hserved =>
      obtain ⟨front, hfront, hstore, hall⟩ := ih hserved
      refine ⟨request :: front, ?_, hstore, ?_⟩
      · exact (List.prefix_cons_inj _).2 hfront
      · intro hok
        exact congrArg (request :: ·) (hall hok)
    | refused hrefused =>
      have hreply : accepted reply = true := hreply
      rw [hreply] at hrefused
      cases hrefused

/-! ### Runs in a row -/

/-- A server after some runs of a session. -/
def afterRuns {α : Type} (reply : σ → Request → Reply × σ) (s : Session α) (server : σ) : Nat → σ
  | 0 => server
  | n + 1 => (play reply (afterRuns reply s server n) s).server

variable {p : Publisher} {tree : FileTree} {directory : Path} {hint : Option Repository}

/-- Where publishing succeeds once, it is a run of the steps of its plan whatever the replies. -/
theorem run_of_publish {all : Log} {summary : Summary}
    (h : Trace (p.publish tree directory hint) all (.ok summary)) :
    ∃ files, collect tree directory = .ok files ∧
      ∀ log answer, Trace (p.publish tree directory hint) log answer →
        ∃ verdict, Run p tree (planUploads p.settings hint files).steps log verdict ∧
          (verdict = .ok () ↔ ∃ summary, answer = .ok summary) := by
  rw [Publisher.publish] at h ⊢
  cases hcollect : collect tree directory with
  | error e =>
    rw [hcollect] at h
    obtain ⟨-, hend⟩ := trace_done_iff.1 h
    cases hend
  | ok files =>
    rw [hcollect] at h
    rcases trace_publishPlan h with ⟨-, -, hend⟩ | ⟨hsome, -⟩
    · cases hend
    refine ⟨files, rfl, fun log answer htrace => ?_⟩
    rcases trace_publishPlan htrace with ⟨hnone, -⟩ | ⟨-, verdict, hrun, rfl⟩
    · exact absurd hnone hsome
    refine ⟨verdict, hrun, ?_⟩
    cases verdict with
    | ok => exact ⟨fun _ => ⟨_, rfl⟩, fun _ => rfl⟩
    | error e =>
      constructor
      · intro h
        cases h
      · intro h
        obtain ⟨summary, h⟩ := h
        cases h

/-- After some runs, all that is missing of what is to be sent is a part of it. -/
theorem addAll_afterRuns {steps : List Step} {all : Log}
    (hall : Run p tree steps all (.ok ()))
    (hruns : ∀ log answer, Trace (p.publish tree directory hint) log answer →
      ∃ verdict, Run p tree steps log verdict) (server : σ × Store) (n : Nat) :
    (afterRuns (serve nameOf treat) (p.publish tree directory hint) server n).2.addAll nameOf
        (all.map (·.1)) = server.2.addAll nameOf (all.map (·.1)) := by
  induction n with
  | zero => rfl
  | succ n ih =>
    obtain ⟨log, htrace, hserved, -⟩ := play_serve nameOf treat
      (p.publish tree directory hint)
      (afterRuns (serve nameOf treat) (p.publish tree directory hint) server n)
    obtain ⟨verdict, hrun⟩ := hruns log _ htrace
    obtain ⟨front, hfront, hstore, -⟩ := kept_of_run hrun hserved
    rw [afterRuns, hstore, Store.addAll_of_prefix (hfront.trans (hrun.prefix_of_ok hall)), ih]

/-- **Publishing can be done again.** Whatever runs were broken off, and wherever: a run that
succeeds after them leaves the server with what a run leaves in which nothing goes wrong, and such a
run succeeds. What they leave is what was there, and at each other slot the first thing that the
steps of the plan send to it. -/
theorem publish_rerun {τ : Type} {calm : τ → Request → Treatment × τ} (hcalm : Calm calm)
    (state : σ) (state' : τ) (store : Store) (n : Nat) {summary : Summary}
    (hlast : (play (serve nameOf treat)
      (afterRuns (serve nameOf treat) (p.publish tree directory hint) (state, store) n)
      (p.publish tree directory hint)).answer = .ok summary) :
    let undisturbed := play (serve nameOf calm) (state', store) (p.publish tree directory hint)
    (∃ summary, undisturbed.answer = .ok summary) ∧
      (afterRuns (serve nameOf treat) (p.publish tree directory hint) (state, store) (n + 1)).2 =
        undisturbed.server.2 ∧
      ∃ files rs, collect tree directory = .ok files ∧
        rs.map .ok = (planUploads p.settings hint files).steps.map (Step.request p tree) ∧
        undisturbed.server.2 = store.addAll nameOf rs := by
  obtain ⟨all, htrace, hserved, -⟩ := play_serve nameOf treat
    (p.publish tree directory hint)
    (afterRuns (serve nameOf treat) (p.publish tree directory hint) (state, store) n)
  obtain ⟨log, htrace', hserved', haccepted⟩ := play_serve nameOf calm
    (p.publish tree directory hint) (state', store)
  obtain ⟨files, hcollect, hruns⟩ := run_of_publish (hlast ▸ htrace)
  obtain ⟨verdict, hall, hok⟩ := hruns _ _ htrace
  obtain rfl := hok.2 ⟨summary, hlast⟩
  obtain ⟨verdict', hrun, hok'⟩ := hruns _ _ htrace'
  obtain rfl := hrun.ok_of_all_accepted hall (haccepted hcalm)
  -- both runs send the same, and all of it is kept
  have hsame : log.map (·.1) = all.map (·.1) :=
    (hrun.prefix_of_ok hall).eq_of_length_le (hall.prefix_of_ok hrun).length_le
  obtain ⟨front, -, hstore, hfront⟩ := kept_of_run hall hserved
  obtain ⟨front', -, hstore', hfront'⟩ := kept_of_run hrun hserved'
  rw [hfront rfl] at hstore
  rw [hfront' rfl, hsame] at hstore'
  refine ⟨hok'.1 rfl, ?_, files, all.map (·.1), hcollect, ?_, hstore'⟩
  · rw [afterRuns, hstore, hstore']
    exact addAll_afterRuns hall (fun log answer h => (hruns log answer h).imp fun _ => And.left) _ n
  · rw [List.map_map]
    exact hall.requests_of_ok

/-! ### A run that is broken off once -/

/-- The publisher of one package, with a server on this computer. -/
def demoLocal : Publisher :=
  { demoPublisher with client := { demoPublisher.client with apiUrl := "http://[::1]:8080" } }

/-- A server that breaks off the first run, once the version is created. -/
def failingOnce (left : Nat) (_ : Request) : Treatment × Nat :=
  match left with
  | 1 => (.mishap (.answered ⟨500, "Internal Server Error", some []⟩) rfl false, 0)
  | left => (.proper "" [], left - 1)

/-- A server on which nothing goes wrong. -/
def neverFailing (server : Unit) (_ : Request) : Treatment × Unit := (.proper "" [], server)

theorem read_demo : readFile demoTree (FileTree.here 1 ++ demoFile) = .ok [] := by
  rw [readFile, demoTree, FileTree.read_here (by decide) (by decide) (by decide)]

/-- A run that has created the version but not uploaded the file, and one behind it that succeeds.
-/
theorem publish_rerun_demo :
    let session := demoLocal.publish demoTree (FileTree.here 1) none
    let server := serve (fun _ => "1.0-1") failingOnce
    let undisturbed := play (serve (fun _ => "1.0-1") neverFailing) ((), fun _ => none) session
    (∃ e, (play server (2, fun _ => none) session).answer = .error e) ∧
    (∃ summary, undisturbed.answer = .ok summary) ∧
    (afterRuns server session (2, fun _ => none) 2).2 = undisturbed.server.2 := by
  intro session server undisturbed
  have hplan : planUploads demoLocal.settings none [FileTree.here 1 ++ demoFile] = _ :=
    plan_demo 1 (by decide)
  have hfile : (uploadOf demoPublisher.settings (FileTree.here 1 ++ demoFile) demoArtifact).file =
      FileTree.here 1 ++ demoFile := rfl
  have hruns : (play server (2, fun _ => none) session).answer.toOption.isNone = true ∧
      (play server (afterRuns server session (2, fun _ => none) 1)
        session).answer.toOption.isSome = true := by
    simp only [session, Publisher.publish, collect_demo 1 (by decide) (by decide), hplan,
      Publisher.publishPlan, Publisher.putAll, Publisher.putFile, hfile, read_demo]
    decide +kernel
  obtain ⟨hbroken, hlast⟩ := hruns
  have hcalm : Calm neverFailing := fun state r => ⟨"", [], rfl⟩
  refine ⟨?_, ?_⟩
  · cases hanswer : (play server (2, fun _ => none) session).answer with
    | error e => exact ⟨e, rfl⟩
    | ok summary =>
      rw [hanswer] at hbroken
      cases hbroken
  · cases hanswer : (play server (afterRuns server session (2, fun _ => none) 1) session).answer with
    | error e =>
      rw [hanswer] at hlast
      cases hlast
    | ok summary =>
      obtain ⟨hdone, hsame, -⟩ := publish_rerun hcalm 2 () (fun _ => none) 1 hanswer
      exact ⟨hdone, hsame⟩

end Courier.Publishing
