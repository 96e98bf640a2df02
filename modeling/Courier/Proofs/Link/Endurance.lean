import Courier.Proofs.Link.Deeds
import Courier.Proofs.Link.Reading

/-! How far a run gets.

What is said first and what is typed can be checked beforehand, but the answer to an echo request
repeats what a server has sent. It may not fit, or have no frame at all, as more can be read than
can be said. A run goes on to the end of the stream as long as all requests can be answered, and
the first of them that cannot be ends it, unreported (`run_endures`). -/
namespace Courier.Link.Conversation

open Packet (Decoder)

/-! ### Answers -/

/-- Whether a packet can be answered, if it asks for that. -/
def Answerable (capacity : Nat) (p : Packet) : Prop :=
  p.command = Packet.echoCommand → Fits capacity p.echoAnswer

/-- The packet that is reported, if it is one that came in. -/
def Deed.heard? : Deed → Option Packet
  | .said _ => none
  | .heard p => some p

/-- The packet that a record reports. -/
def Record.received? : Record → Option Packet
  | .event _ _ (.received p) => some p
  | _ => none

/-- The packets reported in a story are those heard in its deeds. -/
theorem received_tell (n : Nat) (deeds : List Deed) :
    (tell n deeds).filterMap Record.received? = deeds.filterMap Deed.heard? := by
  induction deeds generalizing n with
  | nil => rfl
  | cons deed rest ih =>
    cases deed with
    | said p => exact ih n
    | heard p => exact congrArg (p :: ·) (ih (n + 1))

/-- The packets heard in a story are those that occur. -/
theorem heard_deedsOn (peer : String) (occs : List Occurrence) :
    (occs.flatMap (deedsOn peer)).filterMap Deed.heard? = occs.filterMap Occurrence.packet? := by
  induction occs with
  | nil => rfl
  | cons o rest ih =>
    rw [List.flatMap_cons, List.filterMap_append, ih]
    cases o with
    | packet p =>
      rw [deedsOn]
      split <;> rfl
    | line text =>
      rw [deedsOn]
      split <;> rfl

section Occurrences

variable {capacity : Nat} {peer : String} {occs : List Occurrence}
  (hlines : ∀ text, .line text ∈ occs → ∀ p, .said p ∈ deedsOn peer (.line text) → Fits capacity p)

include hlines

/-- If all requests can be answered, all deeds of what occurs are done. -/
theorem perform_of_answerable (h : ∀ p ∈ occs.filterMap Occurrence.packet?, Answerable capacity p) :
    perform capacity (occs.flatMap (deedsOn peer)) = (occs.flatMap (deedsOn peer), none) := by
  refine perform_of_fits fun q hq => ?_
  obtain ⟨o, ho, hq⟩ := List.mem_flatMap.1 hq
  cases o with
  | line text => exact hlines text ho q hq
  | packet p =>
    have hp : Answerable capacity p := h p (List.mem_filterMap.2 ⟨_, ho, rfl⟩)
    rw [deedsOn] at hq
    split at hq
    · next hecho =>
      obtain rfl : q = p.echoAnswer := by
        simpa [Packet.echoAnswer, Packet.echoAnswerCommand] using hq
      exact hp hecho
    · simp at hq

/-- The first request that cannot be answered is not reported, nor is anything after it. -/
theorem perform_of_not_answerable {before after : List Packet} {p : Packet}
    (hsplit : occs.filterMap Occurrence.packet? = before ++ p :: after)
    (hbefore : ∀ q ∈ before, Answerable capacity q) (hp : ¬Answerable capacity p) :
    ∃ e, p.echoAnswer.build capacity = .error e ∧
      (perform capacity (occs.flatMap (deedsOn peer))).2 = some e ∧
      (perform capacity (occs.flatMap (deedsOn peer))).1.filterMap Deed.heard? = before := by
  obtain ⟨front, back, rfl, hfront, hback⟩ := List.filterMap_eq_append_iff.1 hsplit
  obtain ⟨typed, o, rest, rfl, htyped, ho, -⟩ := List.filterMap_eq_cons_iff.1 hback
  obtain rfl : o = .packet p := by
    cases o with
    | packet q => exact congrArg _ (Option.some.inj ho)
    | line text => cases ho
  have hpackets : (front ++ typed).filterMap Occurrence.packet? = before := by
    rw [List.filterMap_append, hfront, List.filterMap_eq_nil_iff.2 htyped, List.append_nil]
  have hdone : perform capacity ((front ++ typed).flatMap (deedsOn peer)) =
      ((front ++ typed).flatMap (deedsOn peer), none) := by
    refine perform_of_answerable (fun text ht => hlines text ?_) (hpackets ▸ hbefore)
    rw [← List.append_assoc]
    exact List.mem_append_left _ ht
  have hecho : p.command = 65 := Classical.not_not.1 fun hno => hp fun h => absurd h hno
  obtain ⟨e, he⟩ : ∃ e, p.echoAnswer.build capacity = .error e := by
    cases hbuild : p.echoAnswer.build capacity with
    | error e => exact ⟨e, rfl⟩
    | ok frame => exact absurd (fun _ => (fits_of_build hbuild).1) hp
  have hrefused : perform capacity ((.packet p :: rest).flatMap (deedsOn peer)) = ([], some e) := by
    have hdeeds : deedsOn peer (.packet p) = [.said p.echoAnswer, .heard p] := by
      simp [deedsOn, hecho, Packet.echoAnswer, Packet.echoAnswerCommand]
    rw [List.flatMap_cons, hdeeds, List.cons_append, perform, he]
  refine ⟨e, he, ?_⟩
  rw [← List.append_assoc, List.flatMap_append, perform_append, hdone, hrefused]
  refine ⟨rfl, ?_⟩
  show (_ ++ []).filterMap Deed.heard? = before
  rw [List.append_nil, heard_deedsOn, hpackets]

end Occurrences

/-! ### Endurance -/

theorem line_of_occurrences {text : String} {d : Decoder} {inbox : List Arrival}
    (h : .line text ∈ occurrences d inbox) : .line text ∈ inbox := by
  induction inbox generalizing d with
  | nil => cases h
  | cons a rest ih =>
    cases a with
    | bytes bs =>
      rcases List.mem_append.1 h with h | h
      · obtain ⟨p, -, hp⟩ := List.mem_map.1 h
        cases hp
      · exact List.mem_cons_of_mem _ (ih h)
    | line other =>
      rcases List.mem_cons.1 h with h | h
      · cases h
        exact List.mem_cons_self ..
      · exact List.mem_cons_of_mem _ (ih h)
    | hangUp => cases h
    | fault fault => cases h

theorem fault_of_arrivals {size : Nat} {console : Console} {script : List ScriptStep} {fault : Fault}
    (h : .fault fault ∈ arrivals size console script) : .fault fault ∈ script := by
  induction script generalizing console with
  | nil => cases h
  | cons step rest ih =>
    cases step with
    | data bytes =>
      rcases List.mem_append.1 h with h | h
      · obtain ⟨bs, -, hbs⟩ := List.mem_map.1 h
        cases hbs
      · exact List.mem_cons_of_mem _ (ih h)
    | fault other =>
      rcases List.mem_cons.1 h with h | h
      · cases h
        exact List.mem_cons_self ..
      · exact List.mem_cons_of_mem _ (ih h)
    | hangUp =>
      have := List.mem_singleton.1 h
      cases this
    | typed bytes =>
      rcases List.mem_append.1 h with h | h
      · obtain ⟨text, -, htext⟩ := List.mem_map.1 h
        cases htext
      · exact List.mem_cons_of_mem _ (ih h)
    | consoleFault => exact List.mem_cons_of_mem _ (ih h)
    | consoleEnd =>
      rcases List.mem_append.1 h with h | h
      · obtain ⟨text, -, htext⟩ := List.mem_map.1 h
        cases htext
      · exact List.mem_cons_of_mem _ (ih h)

/-- What this side is the source of can be said: login, greeting, and lines. -/
structure Prepared (config : Config) (greeting : Greeting) (inbox : List Arrival) : Prop where
  login_fits : Fits config.bufferSize (.login config.host)
  greeting_fits : Fits config.bufferSize (.echo greeting.peer greeting.message)
  lines_fit : ∀ text, .line text ∈ inbox → ∀ p, .said p ∈ deedsOn greeting.peer (.line text) →
    Fits config.bufferSize p

/-- What comes first can be said, so that the rest of the story decides how far a run gets. -/
theorem Prepared.perform_story {config : Config} {greeting : Greeting} {inbox : List Arrival}
    (h : Prepared config greeting inbox) :
    perform config.bufferSize (story config greeting inbox) =
      (.said (.login config.host) :: .said (.echo greeting.peer greeting.message) ::
          (perform config.bufferSize ((occurrences {} inbox).flatMap (deedsOn greeting.peer))).1,
        (perform config.bufferSize ((occurrences {} inbox).flatMap (deedsOn greeting.peer))).2) := by
  show perform _ (.said (.login config.host) :: .said (.echo greeting.peer greeting.message) :: _) =
    _
  simp only [perform, build_of_fits h.login_fits, build_of_fits h.greeting_fits]

theorem exists_first {α : Type} {good : α → Prop} {xs : List α} (h : ¬∀ x ∈ xs, good x) :
    ∃ before x after, xs = before ++ x :: after ∧ (∀ y ∈ before, good y) ∧ ¬good x := by
  induction xs with
  | nil => simp at h
  | cons x xs ih =>
    by_cases hx : good x
    · obtain ⟨before, y, after, rfl, hbefore, hy⟩ := ih fun hall =>
        h (List.forall_mem_cons.2 ⟨hx, hall⟩)
      exact ⟨x :: before, y, after, rfl, List.forall_mem_cons.2 ⟨hx, hbefore⟩, hy⟩
    · exact ⟨[], x, xs, rfl, by simp, hx⟩

/-- **How far a run gets.** If the socket has no fault, the stream lasts and this side is prepared,
a run ends well just when every echo request that is read can be answered, and then every packet
that is read is reported. Otherwise the first request that cannot be answered ends it, and the
packets in front of that one are reported. -/
theorem run_endures {config : Config} {greeting : Greeting} {sink : Sink} {console : Console}
    {script : List ScriptStep} (hsocket : ∀ fault, .fault fault ∉ script)
    (hprepared : Prepared config greeting (arrivals config.bufferSize console script))
    (hlasts : sink.Lasts (spoken (perform config.bufferSize
      (story config greeting (arrivals config.bufferSize console script))).1).length) :
    let ran := run config greeting sink (arrivals config.bufferSize console script)
    let packets := Connection.packetsRead {} (arrivals config.bufferSize console script)
    (ran.2 = .ok () ↔ ∀ p ∈ packets, Answerable config.bufferSize p) ∧
    (ran.2 = .ok () → ran.1.filterMap Record.received? = packets) ∧
    ∀ before p after, packets = before ++ p :: after →
      (∀ q ∈ before, Answerable config.bufferSize q) → ¬Answerable config.bufferSize p →
      ∃ e, p.echoAnswer.build config.bufferSize = .error e ∧ ran.2 = .error (.packet e) ∧
        ran.1.filterMap Record.received? = before := by
  generalize hinbox : arrivals config.bufferSize console script = inbox at *
  have hfault : ∀ fault, .fault fault ∉ inbox := fun fault hin =>
    hsocket fault (fault_of_arrivals (hinbox ▸ hin))
  let occs := occurrences {} inbox
  have hread : Connection.packetsRead {} inbox = occs.filterMap Occurrence.packet? :=
    Connection.packetsRead_eq rfl inbox
  have hlines : ∀ text, .line text ∈ occs → ∀ p, .said p ∈ deedsOn greeting.peer (.line text) →
      Fits config.bufferSize p := fun text ht => hprepared.lines_fit text (line_of_occurrences ht)
  have hran := run_eq_perform hfault hlasts
  rw [hprepared.perform_story] at hran
  have hreceived : (run config greeting sink inbox).1.filterMap Record.received? =
      (perform config.bufferSize (occs.flatMap (deedsOn greeting.peer))).1.filterMap Deed.heard? := by
    rw [hran]
    exact received_tell 2 (_ :: _ :: _)
  intro ran packets
  have hpackets : packets = occs.filterMap Occurrence.packet? := hread
  have hanswered : (∀ p ∈ packets, Answerable config.bufferSize p) →
      ran.2 = .ok () ∧ ran.1.filterMap Record.received? = packets := fun h => by
    have hperform := perform_of_answerable hlines (hpackets ▸ h)
    rw [hperform] at hran hreceived
    exact ⟨congrArg Prod.snd hran, by rw [hreceived, heard_deedsOn, hpackets]⟩
  have hrefused : ∀ before p after, packets = before ++ p :: after →
      (∀ q ∈ before, Answerable config.bufferSize q) → ¬Answerable config.bufferSize p →
      ∃ e, p.echoAnswer.build config.bufferSize = .error e ∧ ran.2 = .error (.packet e) ∧
        ran.1.filterMap Record.received? = before := fun before p after hsplit hbefore hp => by
    obtain ⟨e, he, hperform, hheard⟩ :=
      perform_of_not_answerable hlines (hpackets ▸ hsplit) hbefore hp
    rw [hperform] at hran
    exact ⟨e, he, congrArg Prod.snd hran, hreceived.trans hheard⟩
  have hiff : ran.2 = .ok () ↔ ∀ p ∈ packets, Answerable config.bufferSize p := by
    -- among those that cannot be answered there is a first one, and it ends the run
    refine ⟨fun hok => Classical.byContradiction fun hnot => ?_, fun h => (hanswered h).1⟩
    obtain ⟨before, p, after, hsplit, hbefore, hp⟩ := exists_first hnot
    obtain ⟨e, -, hend, -⟩ := hrefused before p after hsplit hbefore hp
    rw [hok] at hend
    cases hend
  exact ⟨hiff, fun hok => (hanswered (hiff.1 hok)).2, hrefused⟩

theorem lasts_of_unlimited (n : Nat) : Sink.Lasts {} n :=
  .inr ⟨by decide, fun left refusal h => by cases h⟩

/-- An echo request without a trustworthy header, bytes that make no sense, and a line. -/
theorem run_endures_mixed :
    let config : Config := ⟨"mock", "C2", 64⟩
    let inbox := arrivals 64 (.opened []) [.data [65, 0, 0, 0, 0, 0, 0, 0, 112, 0, 120, 0],
      .data [1, 2, 3, 4, 5, 6, 7, 8, 9], .typed [104, 105, 32, 10], .hangUp]
    (run config ⟨"p", [72]⟩ {} inbox).2 = .ok () ∧
      (run config ⟨"p", [72]⟩ {} inbox).1.filterMap Record.received? = [⟨65, "p", [120, 0]⟩] := by
  intro config inbox
  have hinbox : inbox = [.bytes [65, 0, 0, 0, 0, 0, 0, 0, 112, 0, 120, 0],
      .bytes [1, 2, 3, 4, 5, 6, 7, 8, 9], .line "hi ", .hangUp] := by with_unfolding_all rfl
  have hpackets : Connection.packetsRead {} inbox = [⟨65, "p", [120, 0]⟩] := by
    with_unfolding_all rfl
  have hprepared : Prepared config ⟨"p", [72]⟩ inbox := by
    refine ⟨⟨by decide, by decide, by decide, by decide⟩,
      ⟨by decide, by decide, by decide, by decide⟩, ?_⟩
    intro text htext p hp
    rw [hinbox] at htext
    obtain rfl : text = "hi " := by simpa using htext
    obtain rfl : p = ⟨65, "p", [104, 105, 0]⟩ := by
      have hdeeds : deedsOn "p" (.line "hi ") = [.said ⟨65, "p", [104, 105, 0]⟩] := by decide
      simpa [hdeeds] using hp
    exact ⟨by decide, by decide, by decide, by decide⟩
  have hends := run_endures (by simp) hprepared (lasts_of_unlimited _)
  have hok := hends.1.2 fun p hp => by
    obtain rfl : p = ⟨65, "p", [120, 0]⟩ := by
      have hp : p ∈ Connection.packetsRead {} inbox := hp
      simpa [hpackets] using hp
    exact fun _ => ⟨by decide, by decide, by decide, by decide⟩
  exact ⟨hok, (hends.2.1 hok).trans hpackets⟩

/-- Requests that are read but end the run, unreported: one whose answer does not fit, and one from
a peer with a NUL in its name. -/
theorem run_ended_by_request :
    (let config : Config := ⟨"mock", "C2", 64⟩
      let request : Packet := ⟨65, "p", List.replicate 60 120⟩
      let inbox := arrivals 64 .closed [.data request.frame, .hangUp]
      Prepared config ⟨"p", [72]⟩ inbox ∧ Connection.packetsRead {} inbox = [request] ∧
        (run config ⟨"p", [72]⟩ {} inbox).2 = .error (.packet (.bufferTooSmall 70 64)) ∧
        (run config ⟨"p", [72]⟩ {} inbox).1.filterMap Record.received? = []) ∧
    (let config : Config := ⟨"mock", "C2", 2048⟩
      let request : Packet := ⟨65, "a\x00b", []⟩
      let inbox := arrivals 2048 .closed [.data request.frame, .hangUp]
      Prepared config ⟨"p", [72]⟩ inbox ∧ Connection.packetsRead {} inbox = [request] ∧
        (run config ⟨"p", [72]⟩ {} inbox).2 = .error (.packet .invalidPeerName) ∧
        (run config ⟨"p", [72]⟩ {} inbox).1.filterMap Record.received? = []) := by
  have hprepared : ∀ {size : Nat} {inbox : List Arrival}, 64 ≤ size →
      (∀ text, .line text ∉ inbox) → Prepared ⟨"mock", "C2", size⟩ ⟨"p", [72]⟩ inbox :=
    fun hsize hlines => {
      login_fits := ⟨Nat.le_trans (by decide : (Packet.login "C2").size ≤ 64) hsize,
        (by decide : 0 ∉ Text.utf8 ""), (by decide : (Text.utf8 "").length ≤ 254),
        (by decide : (Packet.login "C2").payload.length ≤ 65535)⟩
      greeting_fits := ⟨Nat.le_trans (by decide : (Packet.echo "p" [72]).size ≤ 64) hsize,
        (by decide : 0 ∉ Text.utf8 "p"), (by decide : (Text.utf8 "p").length ≤ 254),
        (by decide : (Packet.echo "p" [72]).payload.length ≤ 65535)⟩
      lines_fit := fun text h => absurd h (hlines text) }
  have hending : ∀ {config : Config} {inbox : List Arrival} {e : Packet.Error},
      (∀ fault, .fault fault ∉ inbox) →
      (perform config.bufferSize (story config ⟨"p", [72]⟩ inbox)).2 = some e →
      (run config ⟨"p", [72]⟩ {} inbox).2 = .error (.packet e) := fun hfault hrefused => by
    rw [run_eq_perform hfault (lasts_of_unlimited _), hrefused]
  constructor
  · intro config request inbox
    have hinbox : inbox = [.bytes (request.frame.take 64), .bytes (request.frame.drop 64),
        .hangUp] := by decide +kernel
    exact ⟨hprepared (by decide) (by simp [hinbox]), by decide +kernel,
      hending (by simp [hinbox]) (by decide +kernel), by decide +kernel⟩
  · intro config request inbox
    have hinbox : inbox = [.bytes request.frame, .hangUp] := by decide +kernel
    exact ⟨hprepared (by decide) (by simp [hinbox]), by decide +kernel,
      hending (by simp [hinbox]) (by decide +kernel), by decide +kernel⟩

end Courier.Link.Conversation
