import Courier.Link.Conversation
import Courier.Proofs.Packet.Drain

/-! What a client says, and when.

The story of a client does not mention its loop. What arrives is first read from end to end
(`occurrences`): packets as the lenient decoder gives them, and typed lines. Each occurrence then
has its deeds: an echo request is answered before it is reported, and a line that is not blank
goes to the peer. `Went` says that a part of a conversation did exactly certain deeds; it composes,
so each step of the conversation is looked at once. A conversation that ends well is login,
greeting and the deeds of all occurrences, and nothing else (`run_eq_story`). -/
namespace Courier.Link.Conversation

open Packet (Decoder)

/-! ### Stories -/

/-- What a client comes upon: a packet of the server, or a line from its console. -/
inductive Occurrence where
  | packet (packet : Packet)
  | line (text : String)
  deriving DecidableEq, Repr

/-- What a client comes upon, in order. The first fault ends it, as the end of the stream does. -/
def occurrences (d : Decoder) : List Arrival → List Occurrence
  | [] => []
  | .bytes bs :: rest =>
    (d.extend bs).drain.1.map .packet ++ occurrences (d.extend bs).drain.2 rest
  | .line text :: rest => .line text :: occurrences d rest
  | .hangUp :: _ => []
  | .fault _ :: _ => []

/-- What a client does: it says a packet to the server, or reports one. -/
inductive Deed where
  | said (packet : Packet)
  | heard (packet : Packet)
  deriving DecidableEq, Repr

/-- What is done about an occurrence. The answer to an echo request goes to the peer that it came
from, with the same data; a line goes to the configured peer. -/
def deedsOn (peer : String) : Occurrence → List Deed
  | .packet p =>
    if p.command = 65 then [.said ⟨66, p.peer, p.payload⟩, .heard p] else [.heard p]
  | .line text =>
    let trimmed := Text.trimEnd text.toList
    if trimmed = [] then [] else [.said ⟨65, peer, Text.utf8 (String.ofList trimmed) ++ [0]⟩]

/-- All deeds between the first and the last event. -/
def story (config : Config) (greeting : Greeting) (inbox : List Arrival) : List Deed :=
  .said ⟨0, "", Text.utf8 config.host ++ [0]⟩ :: .said ⟨65, greeting.peer, greeting.message ++ [0]⟩ ::
    (occurrences {} inbox).flatMap (deedsOn greeting.peer)

/-- The packet that goes to the server. -/
def Deed.said? : Deed → Option Packet
  | .said p => some p
  | .heard _ => none

/-- The records of deeds, packets numbered from `n` on, and of the last event. -/
def tell : Nat → List Deed → List Record
  | n, [] => [.event n .disconnected .disconnected]
  | n, .said p :: rest => .wrote p.frame :: tell n rest
  | n, .heard p :: rest => .event n .awaiting (.received p) :: tell (n + 1) rest

/-- The bytes on the stream. -/
def written (records : List Record) : Bytes :=
  records.flatMap fun
    | .wrote bytes => bytes
    | .event .. => []

/-! ### Parts that did certain deeds -/

/-- The action by which a deed is done. -/
def Deed.action : Deed → Action
  | .said p => .wrote p.frame
  | .heard p => .received p

/-- These actions are exactly these deeds, and every packet in them can be sent. -/
structure Did (actions : List Action) (deeds : List Deed) : Prop where
  eq : actions = deeds.map Deed.action
  sendable : ∀ p, .said p ∈ deeds → p.Sendable

theorem Did.nothing : Did [] [] := ⟨rfl, by simp⟩

theorem Did.append {done more : List Action} {a b : List Deed} (ha : Did done a)
    (hb : Did more b) : Did (done ++ more) (a ++ b) := by
  refine ⟨by rw [ha.eq, hb.eq, List.map_append], fun p hp => ?_⟩
  rcases List.mem_append.1 hp with hp | hp
  · exact ha.sendable p hp
  · exact hb.sendable p hp

/-- A part that goes on has done exactly these deeds and left this decoder. One that ended has
failed. -/
structure Went (part : Part) (deeds : List Deed) (d : Decoder) : Prop where
  on : ∀ t, part.2 = .ok t → Did part.1 deeds ∧ t.decoder = d
  failed : ∀ ending, part.2 = .error ending → ending ≠ .ok ()

theorem Went.nothing (s : State) : Went ([], .ok s) [] s.decoder := by
  refine ⟨fun t ht => ?_, fun ending h => ?_⟩
  · cases ht
    exact ⟨.nothing, rfl⟩
  · cases h

/-- Two parts that went by their deeds go by them one after the other. -/
theorem Went.andThen {part : Part} {next : State → Part} {a b : List Deed} {d e : Decoder}
    (hp : Went part a d) (hn : ∀ s, s.decoder = d → Went (next s) b e) :
    Went (part.andThen next) (a ++ b) e := by
  obtain ⟨done, result⟩ := part
  cases result with
  | error ending =>
    refine ⟨fun t ht => ?_, fun e' he' => ?_⟩
    · cases ht
    · cases he'
      exact hp.failed ending rfl
  | ok s =>
    obtain ⟨hdone, hd⟩ := hp.on s rfl
    have hnext := hn s hd
    refine ⟨fun t ht => ?_, fun e' he' => hnext.failed e' he'⟩
    obtain ⟨hmore, ht'⟩ := hnext.on t ht
    exact ⟨hdone.append hmore, ht'⟩

theorem transmit_eq_ok {capacity n : Nat} {sink : Sink} {p : Packet}
    (h : (Connection.transmit capacity sink p).result = .ok n) :
    p.Sendable ∧ (Connection.transmit capacity sink p).written = p.frame := by
  unfold Connection.transmit at h ⊢
  cases hb : p.build capacity with
  | error e => simp [hb] at h
  | ok frame =>
    obtain ⟨-, hsend, rfl⟩ := Packet.build_eq_ok_iff.1 hb
    simp only [hb] at h ⊢
    cases hw : (sink.writeAll p.frame.length).result with
    | error fault => simp [hw] at h
    | ok _ => exact ⟨hsend, rfl⟩

theorem went_say (config : Config) (p : Packet) (s : State) :
    Went (say config p s) [.said p] s.decoder := by
  cases hr : (Connection.transmit config.bufferSize s.sink p).result with
  | error e =>
    refine ⟨fun t ht => ?_, fun ending h => ?_⟩
    · simp [say, hr] at ht
    · simp only [say, hr, Except.error.injEq] at h
      simp [← h]
  | ok n =>
    obtain ⟨hsend, hwritten⟩ := transmit_eq_ok hr
    refine ⟨fun t ht => ⟨⟨?_, ?_⟩, say_decoder ht⟩, fun ending h => ?_⟩
    · simp [say, wrote, hwritten, p.frame_ne_nil, Deed.action]
    · simpa using hsend
    · simp [say, hr] at h

/-- Taking up a packet goes by the deeds on it. -/
theorem went_take (config : Config) (peer : String) (p : Packet) (s : State) :
    Went (take config p s) (deedsOn peer (.packet p)) s.decoder := by
  have hheard : ∀ t : State, Went ([.received p], .ok t) [.heard p] t.decoder := fun t => by
    refine ⟨fun u hu => ?_, fun ending h => ?_⟩
    · cases hu
      exact ⟨⟨rfl, by simp⟩, rfl⟩
    · cases h
  by_cases hecho : p.command = 65
  · have hdeeds : deedsOn peer (.packet p) = [.said p.echoAnswer] ++ [.heard p] := by
      simp [deedsOn, hecho, Packet.echoAnswer, Packet.echoAnswerCommand]
    rw [hdeeds, take, answer, if_pos (show p.command = Packet.echoCommand from hecho)]
    exact (went_say config p.echoAnswer s).andThen fun t ht => ht ▸ hheard t
  · have hdeeds : deedsOn peer (.packet p) = [] ++ [.heard p] := by simp [deedsOn, hecho]
    rw [hdeeds, take, answer, if_neg (show ¬p.command = Packet.echoCommand from hecho)]
    exact (Went.nothing s).andThen fun t ht => ht ▸ hheard t

theorem went_sayLine (config : Config) (peer text : String) (s : State) :
    Went (sayLine config peer text s) (deedsOn peer (.line text)) s.decoder := by
  cases htrim : Text.trimEnd text.toList with
  | nil =>
    simp only [sayLine, deedsOn, htrim, if_true]
    exact Went.nothing s
  | cons c cs =>
    simp only [sayLine, deedsOn, htrim, reduceCtorEq, if_false]
    exact went_say config (.echo peer _) s

/-! ### Settling takes what draining gives -/

theorem settle_of_none {config : Config} {s : State} {d : Decoder}
    (h : s.decoder.nextLenient = (.ok none, d)) : settle config s = ([], .ok s) := by
  rw [settle]
  split <;> simp_all

theorem settle_of_error {config : Config} {s : State} {d : Decoder} {e : Packet.Error}
    (h : s.decoder.nextLenient = (.error e, d)) :
    settle config s = settle config { s with decoder := d } := by
  rw [settle]
  split <;> simp_all

theorem settle_of_some {config : Config} {s : State} {d : Decoder} {p : Packet}
    (h : s.decoder.nextLenient = (.ok (some p), d)) :
    settle config s = (take config p { s with decoder := d }).andThen (settle config) := by
  rw [settle]
  split
  · simp_all
  · simp_all
  · next q e hq =>
    rw [h] at hq
    cases hq
    unfold Part.andThen
    split <;> next ht => simp [ht]

theorem went_settle (config : Config) (peer : String) {s : State} {d : Decoder}
    (hd : s.decoder = d) :
    Went (settle config s) ((d.drain.1.map Occurrence.packet).flatMap (deedsOn peer)) d.drain.2 := by
  fun_induction Decoder.drain d generalizing s with
  | case1 d _ h =>
    subst hd
    rw [settle_of_none h]
    exact Went.nothing s
  | case2 d e rest h ih =>
    subst hd
    rw [settle_of_error h]
    exact ih rfl
  | case3 d p rest h ih =>
    subst hd
    rw [settle_of_some h, List.map_cons, List.flatMap_cons]
    exact (went_take config peer p _).andThen fun t ht => ih ht

/-! ### Whole conversations -/

/-- If this part is the end of a conversation that ended well, it did exactly these deeds. -/
def EndsWith (part : Part) (deeds : List Deed) : Prop := part.ending = .ok () → Did part.1 deeds

/-- What follows a part that went by its deeds may be the end. -/
theorem Went.andThen_endsWith {part : Part} {next : State → Part} {a b : List Deed} {d : Decoder}
    (hp : Went part a d) (hn : ∀ s, s.decoder = d → EndsWith (next s) b) :
    EndsWith (part.andThen next) (a ++ b) := by
  intro h
  obtain ⟨done, result⟩ := part
  cases result with
  | error ending => exact absurd h (hp.failed ending rfl)
  | ok s =>
    obtain ⟨hdone, hd⟩ := hp.on s rfl
    exact hdone.append (hn s hd h)

/-- Where the stream is at its end nothing is done. -/
theorem endsWith_over {result : Except Ending State} : EndsWith ([], result) [] :=
  fun _ => .nothing

/-- Meeting what arrives ends, if it ends well, with the deeds on all that occurs. -/
theorem endsWith_meetAll (config : Config) (peer : String) {s : State} {d : Decoder}
    (inbox : List Arrival) (hd : s.decoder = d) :
    EndsWith (meetAll config peer inbox s) ((occurrences d inbox).flatMap (deedsOn peer)) := by
  induction inbox generalizing s d with
  | nil => exact endsWith_over
  | cons a rest ih =>
    cases a with
    | bytes bs =>
      have hext : (s.decoder.extend bs) = d.extend bs := by rw [hd]
      rw [occurrences, List.flatMap_append]
      exact (went_settle config peer hext).andThen_endsWith fun t ht => ih ht
    | line text =>
      rw [occurrences, List.flatMap_cons]
      exact (went_sayLine config peer text s).andThen_endsWith fun t ht => ih (ht.trans hd)
    | hangUp => exact endsWith_over
    | fault fault => exact endsWith_over

/-- A conversation ends, if it ends well, with its story told. -/
theorem endsWith_converse (config : Config) (greeting : Greeting) (sink : Sink)
    (inbox : List Arrival) :
    EndsWith ((greet config greeting { sink }).andThen (meetAll config greeting.peer inbox))
      (story config greeting inbox) := by
  have hlogin := went_say config (.login config.host) { sink }
  have hgreet : Went (greet config greeting { sink })
      ([.said (.login config.host)] ++ [.said (.echo greeting.peer greeting.message)]) {} :=
    hlogin.andThen fun s hs => by
      have hsecond := went_say config (.echo greeting.peer greeting.message) s
      rwa [hs] at hsecond
  exact hgreet.andThen_endsWith fun s hs => endsWith_meetAll config greeting.peer inbox hs

/-! ### Records -/

/-- The numbered actions of some deeds and a last disconnect are their records. -/
theorem number_actions (n : Nat) (deeds : List Deed) :
    (number n (deeds.map Deed.action)).1 ++
        [.event (number n (deeds.map Deed.action)).2 .disconnected .disconnected] =
      tell n deeds := by
  induction deeds generalizing n with
  | nil => rfl
  | cons deed rest ih =>
    cases deed with
    | said p => exact congrArg (.wrote p.frame :: ·) (ih n)
    | heard p => exact congrArg (.event n .awaiting (.received p) :: ·) (ih (n + 1))

/-- The bytes written in a story are the frames of what is said in it. -/
theorem written_tell (n : Nat) (deeds : List Deed) :
    written (tell n deeds) = (deeds.filterMap Deed.said?).flatMap Packet.frame := by
  induction deeds generalizing n with
  | nil => rfl
  | cons deed rest ih =>
    cases deed with
    | said p => exact congrArg (p.frame ++ ·) (ih n)
    | heard p => exact ih (n + 1)

/-- **A client whose run ends well has told exactly its story**: after the first event login and
greeting, then what arrived in its order, each echo request with its answer in front of it, each
line that is not blank as an echo request to the peer, and nothing else. Cut into frames, its bytes
are the packets of the story. -/
theorem run_eq_story {config : Config} {greeting : Greeting} {sink : Sink} {console : Console}
    {script : List ScriptStep}
    (h : (run config greeting sink (arrivals config.bufferSize console script)).2 = .ok ()) :
    let records := (run config greeting sink (arrivals config.bufferSize console script)).1
    let deeds := story config greeting (arrivals config.bufferSize console script)
    records = .event 1 .connected .connected :: tell 2 deeds ∧
      Decoder.takeFrames ⟨written records⟩ = (deeds.filterMap Deed.said?, {}) := by
  intro records deeds
  have hdid := endsWith_converse config greeting sink _ h
  have hrecords : records = .event 1 .connected .connected :: tell 2 deeds := by
    show report ((greet config greeting { sink }).andThen _).1 = _
    rw [hdid.eq, ← number_actions]
    rfl
  refine ⟨hrecords, ?_⟩
  have hwritten : written records = (deeds.filterMap Deed.said?).flatMap Packet.frame := by
    rw [hrecords]
    exact written_tell 2 deeds
  rw [hwritten]
  refine Decoder.takeFrames_frames fun p hp => ?_
  obtain ⟨deed, hdeed, hsaid⟩ := List.mem_filterMap.1 hp
  cases deed with
  | said q =>
    cases hsaid
    exact hdid.sendable _ hdeed
  | heard q => cases hsaid

/-- An echo request without a trustworthy header, bytes that make no sense, a line, a blank one. -/
theorem run_eq_story_mixed :
    let config : Config := ⟨"mock", "C2", 64⟩
    let inbox := arrivals 64 (.opened []) [.data [65, 0, 0, 0, 0, 0, 0, 0, 112, 0, 120, 0],
      .data [1, 2, 3, 4, 5, 6, 7, 8, 9], .typed [104, 105, 32, 10, 32, 10], .hangUp]
    let deeds := story config ⟨"p", [72]⟩ inbox
    (run config ⟨"p", [72]⟩ {} inbox).2 = .ok () ∧
      (run config ⟨"p", [72]⟩ {} inbox).1 = .event 1 .connected .connected :: tell 2 deeds ∧
      deeds = [.said ⟨0, "", [67, 50, 0]⟩, .said ⟨65, "p", [72, 0]⟩, .said ⟨66, "p", [120, 0]⟩,
        .heard ⟨65, "p", [120, 0]⟩, .said ⟨65, "p", [104, 105, 0]⟩] := by
  intro config inbox deeds
  have hok : (run config ⟨"p", [72]⟩ {} inbox).2 = .ok () := by with_unfolding_all rfl
  exact ⟨hok, (run_eq_story hok).1, by with_unfolding_all rfl⟩

end Courier.Link.Conversation
