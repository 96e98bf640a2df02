import Courier.Proofs.Publishing.Places
import Courier.Proofs.Publishing.Rerun

/-! Where uploads go.

The place of an upload is put behind the address of the server as it is written, and then the whole
is read. So a request to upload a file goes to the place that was planned just when that place is
literal (`uploads_addressed`). Names of files may hold characters that end the path, and escapes;
files with such names are stored under other names. -/
namespace Courier.Publishing

open Http (Request Reply Session)
open Http.Session (Log noting play trace_play trace_done_iff)
open Url (Bare Literal)

/-! ### Requests -/

/-- The path of a request is the one of the server with a place behind it, and there is no query. -/
def GoesTo (root : Url) (place : String) (r : Request) : Prop :=
  r.url.query = none ∧ Url.percentDecode r.url.path.text.toList =
    Url.percentDecode root.path.text.toList.dropLast ++ Text.utf8 place

/-- The address of a server that has a host, is no file, and ends with its path. -/
structure IsRoot (c : Client) (root : Url) : Prop where
  parsed : Url.parse (c.url "/") = .ok root
  scheme : (Url.usualPort? root.scheme).isSome = true
  query : root.query = none
  fragment : root.fragment = none

/-- A place starts with a slash and does not end with a blank, so nothing of it is trimmed away. -/
theorem target_eq (settings : Settings) (file : Path) (a : Artifact) :
    ∃ rest, (uploadOf settings file a).target = String.ofList ('/' :: rest) ∧
      ∀ c ∈ ('/' :: rest).getLast?, Url.isBlankEnd c = false := by
  obtain ⟨flag, hflag, hblank⟩ : ∃ c, (publishFlag a).toList = [c] ∧ Url.isBlankEnd c = false := by
    unfold publishFlag
    split
    · exact ⟨'1', rfl, by decide⟩
    · exact ⟨'0', rfl, by decide⟩
  have hstart : (uploadOf settings file a).target.toList =
      '/' :: (uploadOf settings file a).target.toList.tail := by
    simp [uploadOf]
  have hend : (uploadOf settings file a).target.toList.getLast? = some flag := by
    simp [uploadOf, storedName_eq, hflag, List.getLast?_cons, List.getLast?_append]
  refine ⟨_, by rw [← hstart, String.ofList_toList], fun c hc => ?_⟩
  rw [← hstart, hend] at hc
  exact Option.some.inj hc ▸ hblank

/-- A request is made when its address can be read, and it goes there. -/
theorem request_eq_ok {c : Client} {method : Http.Method} {url contentType : String} {body : Bytes}
    {r : Request} (h : c.request method url contentType body = .ok r) :
    ∃ u, Url.parse url = .ok u ∧ r = c.requestTo method u (some contentType) body := by
  unfold Client.request at h
  split at h
  · cases h
  next u hu =>
  dsimp only at h
  split at h
  · exact ⟨u, hu, (Except.ok.inj h).symm⟩
  · cases h

/-- The request of an upload goes to its place just when that is literal. -/
theorem request_goesTo_iff {p : Publisher} {tree : FileTree} {root : Url} {r : Request}
    {file : Path} {a : Artifact} (hroot : IsRoot p.client root)
    (h : (Step.put (uploadOf p.settings file a)).request p tree = .ok r) :
    GoesTo root (uploadOf p.settings file a).target r ↔
      Literal (uploadOf p.settings file a).target.toList := by
  obtain ⟨rest, htarget, hrest⟩ := target_eq p.settings file a
  have hurl (place : List Char) : p.client.url (String.ofList ('/' :: place)) =
      p.client.apiUrl ++ String.ofList ('/' :: place) := by
    rw [Client.url, String.toList_ofList]
    rfl
  obtain ⟨u, hparse, hiff⟩ :=
    Url.parse_says_iff (hurl [] ▸ hroot.parsed) hroot.scheme hroot.query hroot.fragment hrest
  simp only [Step.request] at h
  split at h
  · cases h
  obtain ⟨v, hv, rfl⟩ := request_eq_ok h
  rw [Step.url, htarget, hurl, hparse] at hv
  obtain rfl := Except.ok.inj hv
  rw [htarget, String.toList_ofList]
  exact hiff

/-! ### Sessions -/

theorem mem_of_put_mem_stepsAfter {u : Upload} {uploads : List Upload}
    {earlier : List (String × String)} (h : .put u ∈ stepsAfter earlier uploads) : u ∈ uploads := by
  induction uploads generalizing earlier with
  | nil => cases h
  | cons v rest ih =>
    rw [stepsAfter, List.mem_append, List.mem_cons] at h
    rcases h with h | h | h
    · split at h <;> simp at h
    · cases h
      exact List.mem_cons_self
    · exact List.mem_cons_of_mem _ (ih h)

/-- Only uploads are put; versions are created by another method. -/
theorem exists_put_of_request {p : Publisher} {tree : FileTree} {step : Step} {r : Request}
    (h : step.request p tree = .ok r) (hmethod : r.method = .put) : ∃ u, step = .put u := by
  cases step with
  | create release =>
    simp only [Step.request] at h
    obtain ⟨u, -, rfl⟩ := request_eq_ok h
    cases hmethod
  | put u => exact ⟨u, rfl⟩

/-! ### A server on this computer -/

/-- The address of the server of these examples. -/
def localRoot : Url :=
  { scheme := "http", host := some (.address6 [0, 0, 0, 0, 0, 0, 0, 1]), port := some 8080,
    path := .segments [""] }

theorem isRoot_local : IsRoot demoLocal.client localRoot := by
  have hparse : (Url.parse (demoLocal.client.url "/")).toOption = some localRoot := by
    decide +kernel
  exact ⟨eq_ok_of_toOption hparse, by decide, rfl, rfl⟩

theorem plain_demo : Plain demoLocal.settings where
  owner := by decide
  repository := fun r => by cases r <;> decide
  package := by decide
  component := nofun

/-! ### Addresses of uploads -/

/-- **An upload goes to its place just when that is literal.** Each request to upload a file is that
of a step of the plan, for a file that was classified as a package. It has no query, and its path is
the one of the server with the place behind it, just when the place is literal. Where the settings
are plain and the base name holds no slash, that is when the base name is bare and no dist tag leads
back. -/
theorem uploads_addressed {σ : Type} (p : Publisher) (tree : FileTree) (directory : Path)
    (hint : Option Repository) (reply : σ → Request → Reply × σ) (server : σ) {root : Url}
    (hroot : IsRoot p.client root) {files : List Path}
    (hfiles : collect tree directory = .ok files) :
    let log := (play (noting reply) (server, []) (p.publish tree directory hint)).server.2
    let steps := (planUploads p.settings hint files).steps
    ∀ (k : Nat) (x : Request × Reply), log[k]? = some x → x.1.method = .put →
      ∃ file ∈ files, ∃ a, Artifact.classify file.text hint = .ok (.package a) ∧
        let place := (uploadOf p.settings file a).target
        steps[k]? = some (.put (uploadOf p.settings file a)) ∧
        (GoesTo root place x.1 ↔ Literal place.toList) ∧
        (Plain p.settings → '/' ∉ a.basename.toList →
          (GoesTo root place x.1 ↔ Bare a.basename.toList ∧ ¬HasDotTag a)) := by
  intro log steps k x hx hmethod
  obtain ⟨added, hadded, htrace, -⟩ := trace_play reply server [] (p.publish tree directory hint)
  obtain rfl : log = added := hadded
  rw [Publisher.publish, hfiles] at htrace
  rcases trace_publishPlan htrace with ⟨-, hnone, -⟩ | ⟨-, verdict, hrun, -⟩
  · rw [hnone] at hx
    cases hx
  obtain ⟨step, hstep, hrequest⟩ := hrun.request_at hx
  obtain ⟨u, rfl⟩ := exists_put_of_request hrequest hmethod
  obtain ⟨file, hfile, a, ha, rfl⟩ :=
    mem_uploads_iff.1 (mem_of_put_mem_stepsAfter (List.mem_of_getElem? hstep))
  have hgoes := request_goesTo_iff hroot hrequest
  exact ⟨file, hfile, a, ha, hstep, hgoes, fun hplain hslash =>
    hgoes.trans (literal_target_iff hplain file ha hslash)⟩

theorem uploads_addressed_demo :
    let file := FileTree.here 1 ++ demoFile
    let place := (uploadOf demoLocal.settings file demoArtifact).target
    let session := demoLocal.publish demoTree (FileTree.here 1) none
    let log := (play (noting acceptAll) ((), []) session).server.2
    IsRoot demoLocal.client localRoot ∧ collect demoTree (FileTree.here 1) = .ok [file] ∧
      ∃ x, log[1]? = some x ∧ x.1.method = .put ∧ GoesTo localRoot place x.1 := by
  have hcollect := collect_demo 1 (by decide) (by decide)
  have hplan : planUploads demoLocal.settings none [FileTree.here 1 ++ demoFile] = _ :=
    plan_demo 1 (by decide)
  have hfile : (uploadOf demoPublisher.settings (FileTree.here 1 ++ demoFile) demoArtifact).file =
      FileTree.here 1 ++ demoFile := rfl
  have hsent : ((play (noting acceptAll) ((), [])
      (demoLocal.publish demoTree (FileTree.here 1) none)).server.2[1]?.map (·.1.method)) =
        some .put := by
    simp only [Publisher.publish, hcollect, hplan, Publisher.publishPlan, Publisher.putAll,
      Publisher.putFile, hfile, read_demo]
    decide +kernel
  intro file place session log
  obtain ⟨x, hx, hmethod⟩ := Option.map_eq_some_iff.1 hsent
  obtain ⟨file', hin, a, ha, -, -, hgoes⟩ := uploads_addressed demoLocal demoTree (FileTree.here 1)
    none acceptAll () isRoot_local hcollect 1 x hx hmethod
  obtain rfl := List.mem_singleton.1 hin
  obtain rfl : a = demoArtifact := by simpa [classify_demo] using ha.symm
  exact ⟨isRoot_local, hcollect, x, hx, hmethod,
    (hgoes plain_demo (by decide)).2 ⟨by decide, by simp [HasDotTag, demoArtifact]⟩⟩

/-- A name that holds the sign at which the path of an address ends. -/
def hashFront : List Char := "demo#1-1.0-1.fc30.x86_64.rp".toList

def hashFile : Bytes := (hashFront ++ ['m']).map fun c => UInt8.ofNat c.toNat

def hashTree : FileTree := ⟨.dir [(hashFile, .file [])], []⟩

def hashArtifact : Artifact :=
  { demoArtifact with basename := "demo#1-1.0-1.fc30.x86_64.rpm", name := "demo#1" }

/-- A number sign ends the path. What is stored of the name is what stands in front of it, and that
is the same for packages of many names. -/
theorem upload_led_astray :
    let file := FileTree.here 1 ++ hashFile
    let place := (uploadOf demoLocal.settings file hashArtifact).target
    let session := demoLocal.publish hashTree (FileTree.here 1) none
    let log := (play (noting acceptAll) ((), []) session).server.2
    IsRoot demoLocal.client localRoot ∧ collect hashTree (FileTree.here 1) = .ok [file] ∧
      (planUploads demoLocal.settings none [file]).uploads =
        [uploadOf demoLocal.settings file hashArtifact] ∧
      ∃ x ∈ log, x.1.method = .put ∧
        x.1.url.path.text = "/content/o/fedora/libteonet/1.0-1/linux/t/fc30/x86_64/demo" ∧
        ¬GoesTo localRoot place x.1 := by
  have hcollect : collect hashTree (FileTree.here 1) = .ok [FileTree.here 1 ++ hashFile] := by
    rw [collect, hashTree, FileTree.files_here (by decide) (by decide)]
  have hread : readFile hashTree (FileTree.here 1 ++ hashFile) = .ok [] := by
    rw [readFile, hashTree, FileTree.read_here (by decide) (by decide) (by decide)]
  have hclass : Artifact.classify (Path.text (FileTree.here 1 ++ hashFile)) none =
      .ok (.package hashArtifact) :=
    FileTree.classify_here (by decide) (by decide) (by decide) (by decide) (by decide) (by decide)
      (by decide +kernel) (by decide +kernel)
  have hplan : planUploads demoLocal.settings none [FileTree.here 1 ++ hashFile] = _ :=
    plan_of_classify hclass
  have hfile : (uploadOf demoLocal.settings (FileTree.here 1 ++ hashFile) hashArtifact).file =
      FileTree.here 1 ++ hashFile := rfl
  have hsent : ((play (noting acceptAll) ((), [])
      (demoLocal.publish hashTree (FileTree.here 1) none)).server.2[1]?.map fun x =>
        (x.1.method, x.1.url.path.text)) =
      some (.put, "/content/o/fedora/libteonet/1.0-1/linux/t/fc30/x86_64/demo") := by
    simp only [Publisher.publish, hcollect, hplan, Publisher.publishPlan, Publisher.putAll,
      Publisher.putFile, hfile, hread]
    decide +kernel
  obtain ⟨x, hx, hparts⟩ := Option.map_eq_some_iff.1 hsent
  obtain ⟨hmethod, hpath⟩ := Prod.mk.inj hparts
  refine ⟨isRoot_local, hcollect, congrArg _ hplan, x, List.mem_of_getElem? hx, hmethod, hpath,
    fun hgoes => ?_⟩
  have hsaid := hgoes.2
  rw [hpath] at hsaid
  exact absurd hsaid (by decide +kernel)

end Courier.Publishing
