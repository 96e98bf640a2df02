import Courier.Proofs.Publishing.Deletion
import Courier.Proofs.Url.Written

/-! What pruning deletes.

Files are chosen by their names and deleted by their paths. A session asks for the listing first,
and behind that its exchanges are a course over the files to delete (`trace_prune`), so that each
request to delete belongs to the file at its place in the plan. It goes to the repository and on to
the segments of the path. A path without a segment that says something leads no further than the
repository, so that all of it is addressed (`prune_addresses`). -/
namespace Courier.Publishing

open Http (Method Request Reply Response Session)
open Http.Session

/-! ### Requests of a session -/

/-- An exchange sends its request once, or loses a reply that was never asked for. -/
theorem trace_exchange {request : Option Request} {log : Log} {reply : Reply}
    (h : Trace (Client.exchange request) log reply) :
    log = [] ∧ reply = .lost ∨ ∃ r, request = some r ∧ log = [(r, reply)] := by
  cases request with
  | none => exact .inl (trace_done_iff.1 h)
  | some r =>
    rw [exchange_some] at h
    split at h
    · exact .inr ⟨r, rfl, trace_send_iff.1 h⟩
    · exact .inl (trace_done_iff.1 h)

/-- What was read from a reply was in the body of an answer. -/
theorem readBody_eq_ok {α : Type} {reply : Reply} {url : String} {read : Bytes → Option α}
    {answer : α} (h : Client.readBody reply url read = .ok answer) :
    ∃ r body, reply = .answered r ∧ r.body = some body ∧ read body = some answer := by
  unfold Client.readBody at h
  split at h
  · cases h
  next r =>
  split at h
  · cases h
  unfold Client.bodyOf at h
  cases hbody : r.body with
  | none => simp [hbody] at h
  | some body =>
    cases hread : read body with
    | none => simp [hbody, hread] at h
    | some found =>
      simp only [hbody, hread, Except.ok.injEq] at h
      exact ⟨r, body, rfl, hbody, h ▸ hread⟩

/-- The listing is asked for once, and what is known of the files is in the reply. -/
theorem trace_files {p : Publisher} {repository : String} {unpublished : Bool} {log : Log}
    {answer : Except Error (List RemoteFile)}
    (h : Trace (p.files repository unpublished) log answer) :
    (∀ x ∈ log, x.1.method = .get) ∧ ∀ files, answer = .ok files →
      ∃ request r body, log = [(request, .answered r)] ∧ r.body = some body ∧
        Listing.parse? body = some files := by
  obtain ⟨before, reply, after, hexchange, hdone, rfl⟩ := trace_bind_iff.1 h
  obtain ⟨rfl, rfl⟩ := trace_done_iff.1 hdone
  rw [List.append_nil]
  rcases trace_exchange hexchange with ⟨rfl, rfl⟩ | ⟨request, hrequest, rfl⟩
  · exact ⟨by simp, fun files hfiles => by cases hfiles⟩
  · obtain ⟨u, -, rfl⟩ := Option.map_eq_some_iff.1 hrequest
    refine ⟨by simp [Client.requestTo], fun files hfiles => ?_⟩
    obtain ⟨r, body, rfl, hbody, hparse⟩ := readBody_eq_ok hfiles
    exact ⟨_, r, body, rfl, hbody, hparse⟩

/-- **What pruning sends** is a request for the listing, and behind it, unless the run is dry, the
requests of a course over the files that the plan of that listing deletes. -/
theorem trace_prune {p : Publisher} {repository : String} {keep : Nat} {unpublished dryRun : Bool}
    {log : Log} {answer : Except Error Retention.Plan}
    (h : Trace (p.prune repository keep unpublished dryRun) log answer) :
    (∀ x ∈ log, x.1.method = .get) ∨
      ∃ listing r body files deleted, log = (listing, .answered r) :: deleted ∧
        listing.method = .get ∧ r.body = some body ∧ Listing.parse? body = some files ∧
        (deleted = [] ∨ dryRun = false ∧ ∃ verdict,
          (deletions p repository).Course (Retention.plan files keep).delete deleted verdict) := by
  rcases trace_andThen_iff.1 h with ⟨e, hfiles, -⟩ | ⟨before, files, after, hfiles, hcarry, rfl⟩
  · exact .inl (trace_files hfiles).1
  obtain ⟨hget, hlisting⟩ := trace_files hfiles
  obtain ⟨listing, r, body, rfl, hbody, hparse⟩ := hlisting files rfl
  refine .inr ⟨listing, r, body, files, after, rfl, hget _ (List.mem_singleton_self _), hbody,
    hparse, ?_⟩
  cases dryRun with
  | true => exact .inl (trace_carryOut_dry hcarry).1
  | false =>
    obtain ⟨verdict, hcourse, -⟩ := course_carryOut hcarry
    exact .inr ⟨rfl, verdict, hcourse⟩

/-! ### Addresses of stored files -/

/-- Whether it is told from the start which segments of a path are dots. -/
def ShowsDots (path : String) : Prop :=
  ∀ s ∈ Client.pathSegments path, Url.IsDots s ∨ Url.Named s

/-- Whether a path leads anywhere, past its dots. -/
def LeadsOn (path : String) : Prop :=
  ∃ s ∈ Client.pathSegments path, ¬Url.IsDots s ∧ Url.plain s ≠ ""

instance (path : String) : Decidable (ShowsDots path) :=
  inferInstanceAs (Decidable (∀ s ∈ Client.pathSegments path, _))

instance (path : String) : Decidable (LeadsOn path) :=
  inferInstanceAs (Decidable (∃ s ∈ Client.pathSegments path, _))

/-- A server with a path of segments has an address for each file. -/
theorem contentUrl_of_segments {c : Client} {repository path : String} {base : Url}
    {all : List String} (hbase : Url.parse c.apiUrl = .ok base) (hall : base.path = .segments all)
    (howner : Url.Named c.owner) (hrepository : Url.Named repository) (hpath : ShowsDots path) :
    c.contentUrl repository path = .ok { base with
      path := .segments (Url.basePath all ++ ("content" :: c.owner :: repository ::
        Url.names (Client.pathSegments path)).map (Url.writeSegment base.scheme)) } := by
  have hshown : ∀ s ∈ c.owner :: repository :: Client.pathSegments path,
      Url.IsDots s ∨ Url.Named s :=
    List.forall_mem_cons.2 ⟨.inr howner, List.forall_mem_cons.2 ⟨.inr hrepository, hpath⟩⟩
  have hnames : Url.names (c.owner :: repository :: Client.pathSegments path) =
      c.owner :: repository :: Url.names (Client.pathSegments path) := by
    rw [Url.names, List.filter_cons_of_pos (by simpa using Url.not_isDots_of_named howner),
      List.filter_cons_of_pos (by simpa using Url.not_isDots_of_named hrepository), Url.names]
  simp only [Client.contentUrl, hbase]
  rw [List.cons_append, List.cons_append, List.cons_append, List.nil_append,
    Url.appendAll_eq hall (by decide) (by decide) hshown, hnames]

/-- The address of a stored file, where neither owner nor repository nor a segment turns into dots.
-/
theorem contentUrl_eq {c : Client} {repository path : String} {u : Url}
    (h : c.contentUrl repository path = .ok u) (howner : Url.Named c.owner)
    (hrepository : Url.Named repository) (hpath : ShowsDots path) :
    ∃ base all, Url.parse c.apiUrl = .ok base ∧ base.path = .segments all ∧ u = { base with
      path := .segments (Url.basePath all ++ ("content" :: c.owner :: repository ::
        Url.names (Client.pathSegments path)).map (Url.writeSegment base.scheme)) } := by
  cases hbase : Url.parse c.apiUrl with
  | error e => simp [Client.contentUrl, hbase] at h
  | ok base =>
    cases hall : base.path with
    | opaqueText text => simp [Client.contentUrl, hbase, Url.appendAll, hall] at h
    | segments all =>
      rw [contentUrl_of_segments hbase hall howner hrepository hpath] at h
      exact ⟨base, all, rfl, hall, (Except.ok.inj h).symm⟩

/-- Something is written behind the repository just when a segment says something. -/
theorem leadsOn_iff (scheme path : String) :
    (∃ s ∈ (Url.names (Client.pathSegments path)).map (Url.writeSegment scheme), s ≠ "") ↔
      LeadsOn path := by
  constructor
  · rintro ⟨w, hw, hne⟩
    obtain ⟨s, hs, rfl⟩ := List.mem_map.1 hw
    obtain ⟨hs, hdots⟩ := List.mem_filter.1 hs
    exact ⟨s, hs, of_decide_eq_true hdots, fun hnil => hne (Url.writeSegment_eq_empty_iff.2 hnil)⟩
  · rintro ⟨s, hs, hdots, hne⟩
    exact ⟨_, List.mem_map_of_mem (List.mem_filter.2 ⟨hs, decide_eq_true hdots⟩), fun hnil =>
      hne (Url.writeSegment_eq_empty_iff.1 hnil)⟩

/-- **Where pruning deletes.** The first exchange is the request for the listing, and a request to
delete is that of the file at its place among those which the plan of that listing deletes: it goes
to the address of this file. If its path shows its dots, then behind the path of the server come the
segments that name content, owner and repository, and then those of the path without dots. There is
something behind the repository just when the path leads on; a path that does not addresses the
repository. -/
theorem prune_addresses {σ : Type} (p : Publisher) (repository : String) (keep : Nat)
    (unpublished dryRun : Bool) (reply : σ → Request → Reply × σ) (server : σ)
    (howner : Url.Named p.client.owner) (hrepository : Url.Named repository) :
    let log := (Session.play (noting reply) (server, [])
      (p.prune repository keep unpublished dryRun)).server.2
    ∀ (k : Nat) (x : Request × Reply), log[k]? = some x → x.1.method = .delete → dryRun = false ∧
      ∃ listing r body files, log[0]? = some (listing, .answered r) ∧ listing.method = .get ∧
        r.body = some body ∧ Listing.parse? body = some files ∧
        ∃ i f u, k = i + 1 ∧ (Retention.plan files keep).delete[i]? = some f ∧
          p.client.contentUrl repository f.path = .ok u ∧
          x.1 = p.client.requestTo .delete u none [] ∧
          (ShowsDots f.path → ∃ base all named below, Url.parse p.client.apiUrl = .ok base ∧
            base.path = .segments all ∧ x.1.url = { base with
              user := "", pass := "", path := .segments (Url.basePath all ++ named ++ below) } ∧
            Url.decoded named = ["content", p.client.owner, repository].map
              (fun s => Text.utf8 (Url.plain s)) ∧
            Url.decoded below = (Url.names (Client.pathSegments f.path)).map
              (fun s => Text.utf8 (Url.plain s)) ∧
            ((∃ s ∈ below, s ≠ "") ↔ LeadsOn f.path)) := by
  intro log k x hx hmethod
  obtain ⟨exchanges, hlog, htrace, -⟩ := trace_play reply server []
    (p.prune repository keep unpublished dryRun)
  obtain rfl : log = exchanges := hlog
  rcases trace_prune htrace with hget | ⟨listing, r, body, files, deleted, hall, hlisting, hbody,
    hparse, hdeleted⟩
  · rw [hget x (List.mem_of_getElem? hx)] at hmethod
    cases hmethod
  rw [hall] at hx ⊢
  cases k with
  | zero =>
    -- the exchange in front asks for the listing
    obtain rfl := Option.some.inj hx
    rw [hlisting] at hmethod
    cases hmethod
  | succ i =>
    rw [List.getElem?_cons_succ] at hx
    rcases hdeleted with rfl | ⟨hreal, verdict, hcourse⟩
    · cases hx
    obtain ⟨f, hf, hmade⟩ := hcourse.request_at hx
    obtain ⟨u, hu, hrequest⟩ := deletionRequest_eq_ok hmade
    refine ⟨hreal, listing, r, body, files, rfl, hlisting, hbody, hparse, i, f, u, rfl, hf, hu,
      hrequest, fun hpath => ?_⟩
    obtain ⟨base, all, hbase, hsegments, rfl⟩ := contentUrl_eq hu howner hrepository hpath
    have hurl : x.1.url = { base with user := "", pass := "", path := .segments (Url.basePath all ++
        ("content" :: p.client.owner :: repository :: Url.names (Client.pathSegments f.path)).map
          (Url.writeSegment base.scheme)) } := by
      rw [hrequest]
      rfl
    refine ⟨base, all, ["content", p.client.owner, repository].map (Url.writeSegment base.scheme),
      (Url.names (Client.pathSegments f.path)).map (Url.writeSegment base.scheme), hbase, hsegments,
      ?_, Url.decoded_written base.scheme _, Url.decoded_written base.scheme _,
      leadsOn_iff base.scheme f.path⟩
    rw [hurl, List.append_assoc]
    rfl

/-! ### A listing of one file -/

/-- A publisher to a server on this computer. -/
def localPublisher : Publisher :=
  { client := { authorization := "Basic dTpw", apiUrl := "http://[::1]:8080", owner := "o" }
    settings := { apiUrl := "http://[::1]:8080", user := some "u", pass := some "p",
                  org := some "o" } }

def localUrl (segments : List String) : Url :=
  { scheme := "http", host := some (.address6 [0, 0, 0, 0, 0, 0, 0, 1]), port := some 8080
    path := .segments segments }

/-- The request for the listing. -/
def listingRequest : Request :=
  { method := .get, authorization := "Basic dTpw"
    url := { localUrl ["packages", "o", "ubuntu", "libteonet", "files"] with
      query := some "include_unpublished=0" } }

/-- A request to delete what stands at an address. -/
def deletion (segments : List String) : Request :=
  { method := .delete, authorization := "Basic dTpw", url := localUrl segments }

/-- A server with one listing, which it sends with every reply. -/
def storing (listing : Bytes) (server : Unit) (_ : Request) : Reply × Unit :=
  (.answered ⟨200, "OK", some listing⟩, server)

theorem files_local : ∃ url, localPublisher.files "ubuntu" false =
    .ask listingRequest fun reply => .done (Client.readBody reply url Listing.parse?) := by
  let url := "http://[::1]:8080/packages/o/ubuntu/libteonet/files?include_unpublished=0"
  have hurl : (Url.parse url).toOption = some listingRequest.url := by decide +kernel
  refine ⟨url, ?_⟩
  show (Client.exchange ((Url.parse url).toOption.map _)).bind _ = _
  rw [hurl, Option.map_some, exchange_some, if_pos (by decide +kernel)]
  rfl

theorem plan_one {f : RemoteFile} {k : Retention.Key} (h : Retention.keyOf? f = some k) :
    Retention.plan [f] 0 = ⟨[], [f], []⟩ := by
  simp [Retention.plan, Retention.keyed, Retention.groups, Retention.members, h,
    List.eraseDups_cons]

theorem play_local {f : RemoteFile} {k : Retention.Key} {listing : Bytes} (segments : List String)
    (hparse : Listing.parse? listing = some [f]) (hkey : Retention.keyOf? f = some k)
    (hurl : (localPublisher.client.contentUrl "ubuntu" f.path).toOption = some (localUrl segments))
    (hsend : isSendable (deletion segments) = true) :
    (Session.play (noting (storing listing)) ((), [])
      (localPublisher.prune "ubuntu" 0 false false)).server.2 =
      [(listingRequest, .answered ⟨200, "OK", some listing⟩),
       (deletion segments, .answered ⟨200, "OK", some listing⟩)] := by
  obtain ⟨url, hfiles⟩ := files_local
  have hread : Client.readBody (.answered ⟨200, "OK", some listing⟩) url Listing.parse? =
      .ok [f] := by
    simp [Client.readBody, Client.bodyOf, Response.isSuccess, hparse]
  cases hu : localPublisher.client.contentUrl "ubuntu" f.path with
  | error e =>
    rw [hu] at hurl
    cases hurl
  | ok u =>
    rw [hu] at hurl
    obtain rfl : u = localUrl segments := Option.some.inj hurl
    have hrequest : localPublisher.client.requestTo .delete (localUrl segments) none [] =
        deletion segments := by
      have hauthorization : Client.urlAuthorization (localUrl segments) = none := rfl
      rw [Client.requestTo, hauthorization]
      rfl
    rw [Publisher.prune, hfiles]
    simp only [Session.andThen, Session.bind, Session.play, noting, storing, hread,
      Publisher.carryOut, plan_one hkey, List.map_nil, Session.sayAll, Session.mapOk,
      Retention.Plan.apply, Retention.removeAll, Publisher.removeFile, Client.deleteFile, hu,
      hrequest, exchange_some, hsend, if_true, Session.send, Bind.bind, List.nil_append]
    rfl

/-- A file below the repository that is deleted. -/
theorem prune_addresses_stored_file :
    let listing := Text.utf8 "[\x7b\"path\":\"pool/demo_1.0-1_ubuntu20.04.amd64.deb\"\x7d]"
    let path := "pool/demo_1.0-1_ubuntu20.04.amd64.deb"
    ∃ x, (Session.play (noting (storing listing)) ((), [])
        (localPublisher.prune "ubuntu" 0 false false)).server.2[1]? = some x ∧
      x.1.method = .delete ∧ ∃ u base below, localPublisher.client.contentUrl "ubuntu" path = .ok u ∧
        x.1 = localPublisher.client.requestTo .delete u none [] ∧
        x.1.url.path = .segments (base ++ below) ∧
        Url.decoded below = [Text.utf8 "pool", Text.utf8 "demo_1.0-1_ubuntu20.04.amd64.deb"] ∧
        ∃ s ∈ below, s ≠ "" := by
  intro listing path
  let f : RemoteFile := { path }
  let segments := ["content", "o", "ubuntu", "pool", "demo_1.0-1_ubuntu20.04.amd64.deb"]
  have hparse : Listing.parse? listing = some [f] := by decide +kernel
  have hkey : Retention.keyOf? f =
      some ⟨"demo_ubuntu20.04.amd64", Retention.versionKey "1.0-1"⟩ := by decide +kernel
  have hplay := play_local segments hparse hkey (by decide +kernel) (by decide +kernel)
  let x : Request × Reply := (deletion segments, .answered ⟨200, "OK", some listing⟩)
  have hx : (Session.play (noting (storing listing)) ((), [])
      (localPublisher.prune "ubuntu" 0 false false)).server.2[1]? = some x := by
    rw [hplay]
    rfl
  obtain ⟨-, request, r, body, files, hfirst, -, hbody, hfiles, i, g, u, hplace, hg, hu, hrequest,
      haddress⟩ :=
    prune_addresses localPublisher "ubuntu" 0 false false (storing listing) () (by decide)
      (by decide) 1 x hx rfl
  obtain rfl : 0 = i := Nat.succ.inj hplace
  have hreply : r = ⟨200, "OK", some listing⟩ := by
    rw [hplay] at hfirst
    exact (Reply.answered.inj (Prod.mk.inj (Option.some.inj hfirst)).2).symm
  obtain rfl : listing = body := Option.some.inj ((congrArg Response.body hreply).symm.trans hbody)
  obtain rfl : [f] = files := Option.some.inj (hparse.symm.trans hfiles)
  rw [plan_one hkey] at hg
  obtain rfl : f = g := Option.some.inj hg
  have hshown : ShowsDots f.path := by decide +kernel
  obtain ⟨base, all, named, below, -, -, hurl, -, hbelow, hleads⟩ := haddress hshown
  exact ⟨x, hx, rfl, u, _, below, hu, hrequest, by rw [hurl], hbelow.trans (by decide +kernel),
    hleads.2 (by decide +kernel)⟩

theorem deletion_mem_play {f : RemoteFile} {k : Retention.Key} {listing : Bytes}
    (segments : List String) (hparse : Listing.parse? listing = some [f])
    (hkey : Retention.keyOf? f = some k)
    (hurl : (localPublisher.client.contentUrl "ubuntu" f.path).toOption = some (localUrl segments))
    (hsend : isSendable (deletion segments) = true) :
    ∃ x ∈ (Session.play (noting (storing listing)) ((), [])
        (localPublisher.prune "ubuntu" 0 false false)).server.2,
      x.1.method = .delete ∧ x.1.url.path = .segments segments := by
  rw [play_local segments hparse hkey hurl hsend]
  exact ⟨_, List.mem_cons_of_mem _ (List.mem_singleton_self _), rfl, rfl⟩

/-- A listing that leaves the path out, and one with a path of which the segments come to be dots
once the tabs are gone. The first deletes the repository, the second goes out of it. -/
theorem prune_deletes_elsewhere :
    (∃ x ∈ (Session.play (noting (storing (Text.utf8
          "[\x7b\"name\":\"demo_1.0-1_ubuntu20.04.amd64.deb\"\x7d]"))) ((), [])
        (localPublisher.prune "ubuntu" 0 false false)).server.2,
      x.1.method = .delete ∧ x.1.url.path = .segments ["content", "o", "ubuntu"]) ∧
    ∃ x ∈ (Session.play (noting (storing (Text.utf8
          "[[\"demo_1.0-1_ubuntu20.04.amd64.deb\", \".\\t./.\\t./x\"]]"))) ((), [])
        (localPublisher.prune "ubuntu" 0 false false)).server.2,
      x.1.method = .delete ∧ x.1.url.path = .segments ["content", "o", "", "x"] := by
  let name := "demo_1.0-1_ubuntu20.04.amd64.deb"
  have hkey : ∀ path, Retention.keyOf? { name, path } =
      some ⟨"demo_ubuntu20.04.amd64", Retention.versionKey "1.0-1"⟩ := fun path => by
    have hname : RemoteFile.fileName { name, path } = name :=
      if_neg (by decide : ¬name = "")
    rw [Retention.keyOf?, hname]
    decide +kernel
  constructor
  · exact deletion_mem_play (f := { name }) _ (by decide +kernel) (hkey "") (by decide +kernel)
      (by decide +kernel)
  · exact deletion_mem_play (f := { name, path := ".\t./.\t./x" }) _ (by decide +kernel) (hkey _)
      (by decide +kernel) (by decide +kernel)

end Courier.Publishing
