import Courier.Proofs.Link.LifeCycle

/-! What the console can change.

A line that is typed is said to the peer and does nothing else: it leaves the decoder as it is, also
where the bytes of a packet are only partly there. So of two runs with the same socket, whatever is
typed in them, one reports what the other reports and ends as it ends, and what they say is the same
but for the lines (`run_eq_up_to_console`).

The argument goes by the deeds of a story. Those of lines are taken out of it (`perform_lines`), and
what is left is decided by the arrivals of the socket alone. A fault of the socket ends a run where a
hang-up would, so that it can be treated as one (`run_calm`). -/
namespace Courier.Link

/-- The third list is made of the other two, each of them in its order. -/
inductive Interleaving {α : Type} : List α → List α → List α → Prop where
  | nil : Interleaving [] [] []
  | left {x a b c} : Interleaving a b c → Interleaving (x :: a) b (x :: c)
  | right {x a b c} : Interleaving a b c → Interleaving a (x :: b) (x :: c)

namespace Interleaving

variable {α β : Type} {a b c : List α}

theorem prepend (front : List α) (h : Interleaving a b c) :
    Interleaving (front ++ a) b (front ++ c) := by
  induction front with
  | nil => exact h
  | cons x front ih => exact ih.left

theorem prepend_right (front : List α) (h : Interleaving a b c) :
    Interleaving a (front ++ b) (front ++ c) := by
  induction front with
  | nil => exact h
  | cons x front ih => exact ih.right

theorem alone (a : List α) : Interleaving a [] a := by
  have h := Interleaving.nil.prepend a
  rwa [List.append_nil] at h

/-- What is picked out of an interleaving is an interleaving of what is picked out of its parts. -/
theorem filterMap (f : α → Option β) (h : Interleaving a b c) :
    Interleaving (a.filterMap f) (b.filterMap f) (c.filterMap f) := by
  induction h with
  | nil => exact .nil
  | @left x _ _ _ _ ih =>
    simp only [List.filterMap_cons]
    cases f x with
    | none => exact ih
    | some y => exact ih.left
  | @right x _ _ _ _ ih =>
    simp only [List.filterMap_cons]
    cases f x with
    | none => exact ih
    | some y => exact ih.right

theorem eq_of_nil (h : Interleaving a [] c) : c = a := by
  generalize hb : ([] : List α) = b at h
  induction h with
  | nil => rfl
  | left _ ih => exact congrArg _ (ih hb)
  | right => cases hb

end Interleaving

/-! ### The socket alone -/

/-- Whether a step of the script is one of the socket. -/
def ScriptStep.isSocket : ScriptStep → Bool
  | .data _ | .fault _ | .hangUp => true
  | .typed _ | .consoleFault | .consoleEnd => false

/-- The text of a line that was typed. -/
def Arrival.line? : Arrival → Option String
  | .line text => some text
  | _ => none

/-- The arrivals that come from the socket. -/
def quiet (inbox : List Arrival) : List Arrival := inbox.filter fun a => a.line?.isNone

/-- Lines in front of an inbox are not heard when it is quiet. -/
theorem quiet_lines (lines : List String) (inbox : List Arrival) :
    quiet (lines.map .line ++ inbox) = quiet inbox := by
  rw [quiet, List.filter_append]
  have hnone : (lines.map Arrival.line).filter (fun a => a.line?.isNone) = [] := by
    refine List.filter_eq_nil_iff.2 fun a ha => ?_
    obtain ⟨text, -, rfl⟩ := List.mem_map.1 ha
    simp [Arrival.line?]
  rw [hnone, List.nil_append]
  rfl

/-- Without its lines a script brings what its socket brings. -/
theorem quiet_arrivals (size : Nat) (console : Console) (script : List ScriptStep) :
    quiet (arrivals size console script) = socketArrivals size (script.filter ScriptStep.isSocket) := by
  induction script generalizing console with
  | nil => rfl
  | cons step rest ih =>
    cases step with
    | data bytes =>
      have hbytes : quiet ((chunks size bytes).map .bytes) = (chunks size bytes).map .bytes := by
        refine List.filter_eq_self.2 fun a ha => ?_
        obtain ⟨bs, -, rfl⟩ := List.mem_map.1 ha
        rfl
      rw [arrivals, quiet, List.filter_append, ← quiet, ← quiet, ih, hbytes]
      rfl
    | fault fault => exact congrArg (.fault fault :: ·) (ih console)
    | hangUp => rfl
    | typed bytes =>
      rw [arrivals]
      exact (quiet_lines _ _).trans (ih _)
    | consoleFault => exact ih .closed
    | consoleEnd =>
      rw [arrivals]
      exact (quiet_lines _ _).trans (ih .closed)

namespace Conversation

open Packet (Decoder)

/-! ### How the stream ends -/

/-- How a conversation ends in which all can be said. -/
def closing : List Arrival → Ending
  | [] => .ok ()
  | .hangUp :: _ => .ok ()
  | .fault fault :: _ => if (Error.io fault).isDisconnect then .ok () else .error (.io fault)
  | .bytes _ :: rest => closing rest
  | .line _ :: rest => closing rest

/-- How an inbox closes does not depend on the console. -/
theorem closing_quiet (inbox : List Arrival) : closing (quiet inbox) = closing inbox := by
  induction inbox with
  | nil => rfl
  | cons a rest ih =>
    cases a with
    | bytes bs => exact ih
    | line text => exact ih
    | hangUp => rfl
    | fault fault => rfl

/-- The same arrivals with a hang-up in place of a fault. -/
def calm (inbox : List Arrival) : List Arrival :=
  inbox.map fun
    | .fault _ => .hangUp
    | a => a

theorem occurrences_calm (d : Decoder) (inbox : List Arrival) :
    occurrences d (calm inbox) = occurrences d inbox := by
  induction inbox generalizing d with
  | nil => rfl
  | cons a rest ih =>
    cases a with
    | bytes bs => exact congrArg (_ ++ ·) (ih _)
    | line text => exact congrArg (_ :: ·) (ih d)
    | hangUp => rfl
    | fault fault => rfl

theorem fault_free_calm (inbox : List Arrival) (fault : Fault) : .fault fault ∉ calm inbox := by
  intro h
  obtain ⟨a, -, ha⟩ := List.mem_map.1 h
  cases a <;> cases ha

/-- One part does what the other does, and ends as it ends, but for how it ends if nothing fails. -/
structure EndsAlike (closing : Ending) (p q : Part) : Prop where
  done_eq : p.1 = q.1
  ending_eq : p.ending = match q.ending with
    | .ok () => closing
    | .error e => .error e

/-- Two parts that begin with the same one end alike if what follows does. -/
theorem EndsAlike.andThen {closing : Ending} {part : Part} {f g : State → Part}
    (hfailed : ∀ ending, part.2 = .error ending → ending ≠ .ok ())
    (h : ∀ t, EndsAlike closing (f t) (g t)) :
    EndsAlike closing (part.andThen f) (part.andThen g) := by
  obtain ⟨done, result⟩ := part
  cases result with
  | ok t => exact ⟨congrArg (done ++ ·) (h t).done_eq, (h t).ending_eq⟩
  | error ending =>
    cases ending with
    | ok => exact absurd rfl (hfailed _ rfl)
    | error e => exact ⟨rfl, rfl⟩

/-- What arrives is met as if the socket hung up where it fails, and where that would end well the
inbox decides how it ends. -/
theorem meetAll_calm (config : Config) (peer : String) (inbox : List Arrival) (s : State) :
    EndsAlike (closing inbox) (meetAll config peer inbox s) (meetAll config peer (calm inbox) s) := by
  induction inbox generalizing s with
  | nil => exact ⟨rfl, rfl⟩
  | cons a rest ih =>
    cases a with
    | bytes bs => exact EndsAlike.andThen (went_settle config peer rfl).failed ih
    | line text => exact EndsAlike.andThen (went_sayLine config peer text s).failed ih
    | hangUp => exact ⟨rfl, rfl⟩
    | fault fault => exact ⟨rfl, rfl⟩

/-- A fault of the socket ends a run where a hang-up would. -/
theorem run_calm (config : Config) (greeting : Greeting) (sink : Sink) (inbox : List Arrival) :
    (run config greeting sink inbox).1 = (run config greeting sink (calm inbox)).1 ∧
      (run config greeting sink inbox).2 = match (run config greeting sink (calm inbox)).2 with
        | .ok () => closing inbox
        | .error e => .error e := by
  have hgreet : Went (greet config greeting { sink })
      ([.said (.login config.host)] ++ [.said (.echo greeting.peer greeting.message)]) {} :=
    (went_say config (.login config.host) { sink }).andThen fun s hs => by
      have hsecond := went_say config (.echo greeting.peer greeting.message) s
      rwa [hs] at hsecond
  have halike := EndsAlike.andThen hgreet.failed (meetAll_calm config greeting.peer inbox)
  exact ⟨congrArg report halike.done_eq, halike.ending_eq⟩

/-- What a run does on a stream that lasts, whatever arrives. -/
theorem run_eq_perform_closing {config : Config} {greeting : Greeting} {sink : Sink}
    {inbox : List Arrival}
    (hlasts : sink.Lasts (spoken (perform config.bufferSize (story config greeting inbox)).1).length) :
    run config greeting sink inbox =
      (.event 1 .connected .connected ::
          tell 2 (perform config.bufferSize (story config greeting inbox)).1,
        match (perform config.bufferSize (story config greeting inbox)).2 with
        | some e => .error (.packet e)
        | none => closing inbox) := by
  have hstory : story config greeting (calm inbox) = story config greeting inbox := by
    rw [story, story, occurrences_calm]
  have hcalm := run_eq_perform (fault_free_calm inbox) (hstory ▸ hlasts)
  obtain ⟨hrecords, hending⟩ := run_calm config greeting sink inbox
  rw [hcalm, hstory] at hrecords hending
  refine Prod.ext hrecords (hending.trans ?_)
  cases (perform config.bufferSize (story config greeting inbox)).2 <;> rfl

/-! ### Deeds without lines -/

/-- Without the lines the packets that occur are the same, and nothing else does. -/
theorem occurrences_quiet (d : Decoder) (inbox : List Arrival) :
    occurrences d (quiet inbox) =
      (occurrences d inbox).filter fun o => o.packet?.isSome := by
  induction inbox generalizing d with
  | nil => rfl
  | cons a rest ih =>
    cases a with
    | bytes bs =>
      have hpackets : ((d.extend bs).drain.1.map Occurrence.packet).filter
          (fun o => o.packet?.isSome) = (d.extend bs).drain.1.map .packet := by
        refine List.filter_eq_self.2 fun o ho => ?_
        obtain ⟨p, -, rfl⟩ := List.mem_map.1 ho
        rfl
      rw [occurrences, List.filter_append, hpackets, ← ih]
      rfl
    | line text => exact ih d
    | hangUp => rfl
    | fault fault => rfl

/-- The arrivals up to the end of the stream. -/
def upToEnd (inbox : List Arrival) : List Arrival :=
  inbox.takeWhile fun
    | .hangUp | .fault _ => false
    | _ => true

/-- The lines that a client comes upon are those in front of the end of the stream. -/
theorem lines_occurrences (d : Decoder) (inbox : List Arrival) :
    ((occurrences d inbox).filter fun o => o.packet?.isNone) =
      ((upToEnd inbox).filterMap Arrival.line?).map .line := by
  induction inbox generalizing d with
  | nil => rfl
  | cons a rest ih =>
    cases a with
    | bytes bs =>
      have hnone : ((d.extend bs).drain.1.map Occurrence.packet).filter
          (fun o => o.packet?.isNone) = [] := by
        refine List.filter_eq_nil_iff.2 fun o ho => ?_
        obtain ⟨p, -, rfl⟩ := List.mem_map.1 ho
        simp [Occurrence.packet?]
      rw [occurrences, List.filter_append, hnone, List.nil_append]
      exact ih _
    | line text => exact congrArg (_ :: ·) (ih d)
    | hangUp => rfl
    | fault fault => rfl

/-- Where all lines can be said, taking them out leaves the other deeds as they are: as many of them
are done, and the same one is the first that cannot be. -/
theorem perform_lines {capacity : Nat} {peer : String} {occs : List Occurrence}
    (hlines : ∀ text, .line text ∈ occs → ∀ p, .said p ∈ deedsOn peer (.line text) →
      Fits capacity p) :
    let others := occs.filter fun o => o.packet?.isSome
    let lines := occs.filter fun o => o.packet?.isNone
    (perform capacity (occs.flatMap (deedsOn peer))).2 =
        (perform capacity (others.flatMap (deedsOn peer))).2 ∧
      ∃ typed, typed <+: lines.flatMap (deedsOn peer) ∧
        ((perform capacity (others.flatMap (deedsOn peer))).2 = none →
          typed = lines.flatMap (deedsOn peer)) ∧
        Interleaving (perform capacity (others.flatMap (deedsOn peer))).1 typed
          (perform capacity (occs.flatMap (deedsOn peer))).1 := by
  induction occs with
  | nil => exact ⟨rfl, [], List.nil_prefix, fun _ => rfl, .nil⟩
  | cons o rest ih =>
    obtain ⟨hsame, typed, hprefix, hall, hmixed⟩ :=
      ih fun text ht => hlines text (List.mem_cons_of_mem _ ht)
    cases o with
    | packet p =>
      simp only [Occurrence.packet?, Option.isSome_some, Option.isNone_some, List.filter_cons_of_pos,
        List.filter_cons_of_neg, Bool.false_eq_true, not_false_eq_true, List.flatMap_cons,
        perform_append]
      cases (perform capacity (deedsOn peer (.packet p))).2 with
      | some e => exact ⟨rfl, [], List.nil_prefix, nofun, .alone _⟩
      | none => exact ⟨hsame, typed, hprefix, hall, hmixed.prepend _⟩
    | line text =>
      have hsaid : perform capacity (deedsOn peer (.line text)) = (deedsOn peer (.line text), none) :=
        perform_of_fits (hlines text (List.mem_cons_self ..))
      simp only [Occurrence.packet?, Option.isSome_none, Option.isNone_none, List.filter_cons_of_pos,
        List.filter_cons_of_neg, Bool.false_eq_true, not_false_eq_true, List.flatMap_cons,
        perform_append, hsaid]
      exact ⟨hsame, _, (List.prefix_append_right_inj _).2 hprefix,
        fun hnone => congrArg (_ ++ ·) (hall hnone), hmixed.prepend_right _⟩

/-! ### Runs with a console -/

/-- The echo requests of the lines that are not blank, up to the end of the stream. -/
def lineEchoes (peer : String) (inbox : List Arrival) : List Packet :=
  ((upToEnd inbox).filterMap Arrival.line?).flatMap fun text =>
    (deedsOn peer (.line text)).filterMap Deed.said?

/-- Each line that is not blank fits in a packet. -/
def LinesFit (config : Config) (greeting : Greeting) (inbox : List Arrival) : Prop :=
  ∀ text, .line text ∈ inbox → ∀ p, .said p ∈ deedsOn greeting.peer (.line text) →
    Fits config.bufferSize p

/-- No write fails: the stream takes all that the client says. -/
def Outlasts (sink : Sink) (config : Config) (greeting : Greeting) (inbox : List Arrival) : Prop :=
  sink.Lasts (spoken (perform config.bufferSize (story config greeting inbox)).1).length

/-- Cut into frames, what a run writes is made of these packets, in their order, and of the echo
requests of its lines, in their order. All of those are there, unless a packet that could not be
said ended the run. -/
def AddsLines (common : List Packet) (peer : String) (inbox : List Arrival)
    (ran : List Record × Ending) : Prop :=
  ∃ frames typed, Decoder.takeFrames ⟨written ran.1⟩ = (frames, {}) ∧
    Interleaving common typed frames ∧ typed <+: lineEchoes peer inbox ∧
    ((∀ e, ran.2 ≠ .error (.packet e)) → typed = lineEchoes peer inbox)

theorem heard_lines (peer : String) (texts : List String) :
    ((texts.map Occurrence.line).flatMap (deedsOn peer)).filterMap Deed.heard? = [] := by
  rw [heard_deedsOn, List.filterMap_map]
  exact List.filterMap_eq_nil_iff.2 fun _ _ => rfl

theorem said_lines (peer : String) (texts : List String) :
    ((texts.map Occurrence.line).flatMap (deedsOn peer)).filterMap Deed.said? =
      texts.flatMap fun text => (deedsOn peer (.line text)).filterMap Deed.said? := by
  rw [List.flatMap_map, List.filterMap_flatMap]

theorem fits_of_mem_perform {capacity : Nat} {deeds : List Deed} {p : Packet}
    (h : .said p ∈ (perform capacity deeds).1) : Fits capacity p := by
  induction deeds with
  | nil => cases h
  | cons deed rest ih =>
    cases deed with
    | heard q =>
      rcases List.mem_cons.1 h with h | h
      · cases h
      · exact ih h
    | said q =>
      rw [perform] at h
      cases hbuild : q.build capacity with
      | error e =>
        rw [hbuild] at h
        cases h
      | ok frame =>
        rw [hbuild] at h
        rcases List.mem_cons.1 h with h | h
        · cases h
          exact (fits_of_build hbuild).1
        · exact ih h

/-- What is performed can be cut into frames again. -/
theorem takeFrames_performed (n capacity : Nat) (deeds : List Deed) :
    Decoder.takeFrames ⟨written (tell n (perform capacity deeds).1)⟩ =
      ((perform capacity deeds).1.filterMap Deed.said?, {}) := by
  rw [written_tell]
  refine Decoder.takeFrames_frames fun p hp => ?_
  obtain ⟨deed, hdeed, hsaid⟩ := List.mem_filterMap.1 hp
  cases deed with
  | said q =>
    cases hsaid
    exact (fits_of_mem_perform hdeed).sendable
  | heard q => cases hsaid

/-- The events of deeds are those of the packets that are heard. -/
theorem events_tell (n : Nat) (deeds : List Deed) :
    (tell n deeds).filterMap Record.event? =
      ((deeds.filterMap Deed.heard?).zipIdx n).map (fun (p, i) => (i, .awaiting, .received p)) ++
        [(n + (deeds.filterMap Deed.heard?).length, .disconnected, .disconnected)] := by
  have hheard : (deeds.map Deed.action).filterMap Action.received? = deeds.filterMap Deed.heard? := by
    rw [List.filterMap_map]
    congr 1
    funext deed
    cases deed <;> rfl
  obtain ⟨hevents, -, hnext⟩ := number_events n (deeds.map Deed.action)
  rw [← number_actions, List.filterMap_append, hevents, hnext, hheard]
  rfl

/-- Login and greeting stand in front of every story, so that lines can be taken out of it. -/
theorem perform_story_lines {config : Config} {greeting : Greeting} {inbox : List Arrival}
    (hlines : LinesFit config greeting inbox) :
    let deeds := perform config.bufferSize (story config greeting inbox)
    let others := perform config.bufferSize (story config greeting (quiet inbox))
    let lines := (((upToEnd inbox).filterMap Arrival.line?).map Occurrence.line).flatMap
      (deedsOn greeting.peer)
    deeds.2 = others.2 ∧ ∃ typed, typed <+: lines ∧ (others.2 = none → typed = lines) ∧
      Interleaving others.1 typed deeds.1 := by
  intro deeds others lines
  have hfit : ∀ text, .line text ∈ occurrences {} inbox →
      ∀ p, .said p ∈ deedsOn greeting.peer (.line text) → Fits config.bufferSize p :=
    fun text ht => hlines text (line_of_occurrences ht)
  obtain ⟨hsame, typed, hprefix, hall, hmixed⟩ := perform_lines hfit
  rw [lines_occurrences] at hprefix hall
  rw [← occurrences_quiet] at hsame hall hmixed
  have hfront : ∀ inbox, story config greeting inbox =
      [.said (.login config.host), .said (.echo greeting.peer greeting.message)] ++
        (occurrences {} inbox).flatMap (deedsOn greeting.peer) := fun _ => rfl
  simp only [deeds, others, hfront, perform_append]
  split
  · exact ⟨rfl, [], List.nil_prefix, nofun, .alone _⟩
  · exact ⟨hsame, typed, hprefix, hall, hmixed.prepend _⟩

/-- What a run is without its lines: the same events and the same ending, and the same frames but
for the lines. -/
theorem run_quiet {config : Config} {greeting : Greeting} {sink : Sink} {inbox : List Arrival}
    (hlines : LinesFit config greeting inbox) (hlasts : Outlasts sink config greeting inbox) :
    let ran := run config greeting sink inbox
    let others := perform config.bufferSize (story config greeting (quiet inbox))
    ran.1.filterMap Record.event? =
      (1, .connected, .connected) :: (tell 2 others.1).filterMap Record.event? ∧
    (ran.2 = match others.2 with
      | some e => .error (.packet e)
      | none => closing (quiet inbox)) ∧
    AddsLines (others.1.filterMap Deed.said?) greeting.peer inbox ran := by
  intro ran others
  have hran : ran = _ := run_eq_perform_closing hlasts
  obtain ⟨hsame, typed, hprefix, hall, hmixed⟩ := perform_story_lines hlines
  have hheard := hmixed.filterMap Deed.heard?
  have hnone := hprefix.filterMap Deed.heard?
  rw [heard_lines, List.prefix_nil] at hnone
  rw [hnone] at hheard
  refine ⟨?_, ?_, _, typed.filterMap Deed.said?, ?_, hmixed.filterMap _, ?_, fun hend => ?_⟩
  · rw [hran, List.filterMap_cons, events_tell, events_tell, hheard.eq_of_nil]
    rfl
  · rw [hran, closing_quiet, hsame]
  · rw [hran]
    exact takeFrames_performed 2 _ _
  · have hsaid := hprefix.filterMap Deed.said?
    rwa [said_lines] at hsaid
  · have hnorefusal : others.2 = none := by
      cases hrefused : others.2 with
      | none => rfl
      | some e =>
        refine absurd ?_ (hend e)
        rw [hran, hsame, hrefused]
    rw [hall hnorefusal, said_lines, lineEchoes]

/-- **The console does not disturb the socket.** Of two runs with the same socket, in which all
lines fit and no write fails, one reports what the other reports, with the same numbers in the same
phases, and ends as it ends; and what they write is the same but for the echo requests of their
lines. -/
theorem run_eq_up_to_console {config : Config} {greeting : Greeting} {sink sink' : Sink}
    {console console' : Console} {script script' : List ScriptStep}
    (hsocket : script.filter ScriptStep.isSocket = script'.filter ScriptStep.isSocket)
    (hlines : LinesFit config greeting (arrivals config.bufferSize console script))
    (hlines' : LinesFit config greeting (arrivals config.bufferSize console' script'))
    (hlasts : Outlasts sink config greeting (arrivals config.bufferSize console script))
    (hlasts' : Outlasts sink' config greeting (arrivals config.bufferSize console' script')) :
    let inbox := arrivals config.bufferSize console script
    let inbox' := arrivals config.bufferSize console' script'
    let ran := run config greeting sink inbox
    let ran' := run config greeting sink' inbox'
    ran.1.filterMap Record.event? = ran'.1.filterMap Record.event? ∧ ran.2 = ran'.2 ∧
    ∃ common, AddsLines common greeting.peer inbox ran ∧
      AddsLines common greeting.peer inbox' ran' := by
  intro inbox inbox' ran ran'
  have hquiet : quiet inbox = quiet inbox' := by
    rw [quiet_arrivals, quiet_arrivals, hsocket]
  obtain ⟨hevents, hending, hadds⟩ := run_quiet hlines hlasts
  obtain ⟨hevents', hending', hadds'⟩ := run_quiet hlines' hlasts'
  rw [← hquiet] at hevents' hending' hadds'
  exact ⟨hevents.trans hevents'.symm, hending.trans hending'.symm, _, hadds, hadds'⟩

/-- A line and a blank one that are typed while half of a packet is there, against no console. -/
theorem run_eq_up_to_console_halved :
    let config : Config := ⟨"mock", "C2", 64⟩
    let request : Bytes := (Packet.mk 65 "p" [120, 0]).frame
    let inbox := arrivals 64 (.opened []) [.data (request.take 7), .typed [104, 105, 32, 10, 10],
      .data (request.drop 7), .hangUp]
    let inbox' := arrivals 64 .closed [.data (request.take 7), .data (request.drop 7), .hangUp]
    let ran := run config ⟨"p", [72]⟩ {} inbox
    let ran' := run config ⟨"p", [72]⟩ {} inbox'
    ran.1.filterMap Record.event? = ran'.1.filterMap Record.event? ∧ ran.2 = ran'.2 ∧
      lineEchoes "p" inbox = [⟨65, "p", [104, 105, 0]⟩] ∧ lineEchoes "p" inbox' = [] ∧
      ∃ common, AddsLines common "p" inbox ran ∧ AddsLines common "p" inbox' ran' := by
  intro config request inbox inbox'
  have hinbox : inbox = [.bytes (request.take 7), .line "hi ", .line "",
      .bytes (request.drop 7), .hangUp] := by decide +kernel
  have hinbox' : inbox' = [.bytes (request.take 7), .bytes (request.drop 7), .hangUp] := by
    decide +kernel
  have htyped : deedsOn "p" (.line "hi ") = [.said ⟨65, "p", [104, 105, 0]⟩] := by decide
  have hblank : deedsOn "p" (.line "") = [] := by decide
  have hlines : LinesFit config ⟨"p", [72]⟩ inbox := by
    intro text htext p hp
    simp only [hinbox, List.mem_cons, Arrival.line.injEq, reduceCtorEq, List.not_mem_nil, or_false,
      false_or] at htext
    rcases htext with rfl | rfl
    · obtain rfl : p = ⟨65, "p", [104, 105, 0]⟩ := by simpa [htyped] using hp
      exact ⟨by decide, by decide, by decide, by decide⟩
    · simp [hblank] at hp
  have hlines' : LinesFit config ⟨"p", [72]⟩ inbox' := fun text htext => by
    simp [hinbox'] at htext
  obtain ⟨hevents, hending, hcommon⟩ := run_eq_up_to_console (by decide +kernel) hlines hlines'
    (lasts_of_unlimited _) (lasts_of_unlimited _)
  exact ⟨hevents, hending, by decide +kernel, by decide +kernel, hcommon⟩

end Conversation
end Courier.Link
