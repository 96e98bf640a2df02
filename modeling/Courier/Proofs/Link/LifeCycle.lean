import Courier.Proofs.Link.Endurance

/-! The life of a client, turn by turn.

A run is described here a second time, as a loop that keeps its own phase and the number of its next
event. The first turn is login and greeting. After that a turn looks at what is buffered, and takes
one packet or drops what cannot be read; only when nothing is found does it wait for one more
arrival. `turn` is one such turn and `Execution` all of them up to the last.

That the loop comes to an end rests on one measure, the bytes that are not read yet and the arrivals
that are still to come. A packet uses up bytes, and so does a packet error, as it empties the buffer:
the loop cannot look at the same bytes twice (`finishes_of_waiting`). What the loop shows is what
`run` gives, so that number and phase of each event are those the loop was in (`run_life_cycle`). -/
namespace Courier.Link.Conversation

open Connection (transmit nextLenient_none)

/-! ### The loop -/

/-- A client between two turns. -/
structure Loop where
  phase : Phase := .connected
  /-- The number of the next event. -/
  next : Nat := 1
  state : State
  inbox : List Arrival

/-- What a turn shows, the loop after it, and the ending if it was the last one. -/
abbrev Turn := List Record × Loop × Option Ending

namespace Loop

/-- Reports an event in the phase that the loop is in. -/
def emit (l : Loop) (event : Event) : Record × Loop :=
  (.event l.next l.phase event, { l with next := l.next + 1 })

/-- All actions of a turn, each event with the number that is next and the phase. -/
def showAll (l : Loop) : List Action → List Record × Loop
  | [] => ([], l)
  | .wrote bytes :: rest => let (records, l) := l.showAll rest; (.wrote bytes :: records, l)
  | .received p :: rest =>
    let (record, l) := l.emit (.received p)
    let (records, l) := l.showAll rest
    (record :: records, l)

/-- Shows what was done and goes on in a phase, or reports the last event. -/
def follow (l : Loop) (phase : Phase) (part : Part) : Turn :=
  let (records, l) := l.showAll part.1
  match part.2 with
  | .ok state => (records, { l with phase, state }, none)
  | .error ending =>
    let (last, l) := { l with phase := .disconnected }.emit .disconnected
    (records ++ [last], l, some ending)

/-- One turn of the loop. -/
def turn (config : Config) (greeting : Greeting) (l : Loop) : Turn :=
  match l.phase with
  | .connected =>
    let (first, l) := l.emit .connected
    let (records, rest) := l.follow .awaiting (greet config greeting l.state)
    (first :: records, rest)
  | .awaiting =>
    match l.state.decoder.nextLenient, l.inbox with
    | (.ok (some p), decoder), _ => l.follow .awaiting (take config p { l.state with decoder })
    | (.error _, decoder), _ => l.follow .awaiting ([], .ok { l.state with decoder })
    | (.ok none, _), [] => l.follow .awaiting ([], .error (.ok ()))
    | (.ok none, decoder), .bytes bs :: inbox =>
      { l with inbox }.follow .awaiting ([], .ok { l.state with decoder := decoder.extend bs })
    | (.ok none, _), a :: inbox =>
      { l with inbox }.follow .awaiting (meet config greeting.peer a l.state)
  | .disconnected => ([], l, some (.ok ()))

end Loop

/-- So many turns, all that they show, the loop after the last of them, and how it ended. -/
inductive Execution (config : Config) (greeting : Greeting) :
    Nat → Loop → List Record → Loop → Ending → Prop where
  | last {l records final ending} : l.turn config greeting = (records, final, some ending) →
      Execution config greeting 1 l records final ending
  | more {l records l' turns later final ending} :
      l.turn config greeting = (records, l', none) →
      Execution config greeting turns l' later final ending →
      Execution config greeting (turns + 1) l (records ++ later) final ending

/-! ### What is shown -/

/-- The packet that an action reports. -/
def Action.received? : Action → Option Packet
  | .wrote _ => none
  | .received p => some p

theorem number_append (n : Nat) (a b : List Action) :
    number n (a ++ b) =
      ((number n a).1 ++ (number (number n a).2 b).1, (number (number n a).2 b).2) := by
  induction a generalizing n with
  | nil => rfl
  | cons action rest ih => cases action <;> simp [number, ih]

/-- A packet is shown in the phase of the loop. While that is the waiting phase, or where no packet
is received, the loop numbers its events as `run` does. -/
theorem Loop.showAll_eq {l : Loop} {done : List Action}
    (h : l.phase = .awaiting ∨ done.filterMap Action.received? = []) :
    l.showAll done = ((number l.next done).1, { l with next := (number l.next done).2 }) := by
  induction done generalizing l with
  | nil => rfl
  | cons action rest ih =>
    cases action with
    | wrote bytes => simp only [showAll, number, ih h]
    | received p =>
      have hphase : l.phase = .awaiting := h.resolve_right (List.cons_ne_nil p _)
      have hrest : Loop.showAll ⟨.awaiting, l.next + 1, l.state, l.inbox⟩ rest =
          ((number (l.next + 1) rest).1, ⟨.awaiting, (number (l.next + 1) rest).2, l.state, l.inbox⟩) :=
        ih (.inl rfl)
      simp only [showAll, number, emit, hphase, hrest]

/-- The records of what is done from number `n` on, and of the last event. -/
def shown (n : Nat) (done : List Action) : List Record :=
  (number n done).1 ++ [.event (number n done).2 .disconnected .disconnected]

/-- From this loop on, the client shows what a part of the conversation does, and ends as that ends,
within so many turns. -/
def Finishes (config : Config) (greeting : Greeting) (turns : Nat) (l : Loop) (part : Part) : Prop :=
  ∃ taken ≤ turns, ∃ final, Execution config greeting taken l (shown l.next part.1) final part.ending ∧
    final.phase = .disconnected

section Turns

variable {config : Config} {greeting : Greeting} {l m : Loop} {part : Part} {turns : Nat}

/-- The turn that follows a part which ended is the last one. -/
theorem finishes_of_ended {ending : Ending}
    (hturn : l.turn config greeting = m.follow .awaiting part) (hnext : m.next = l.next)
    (hphase : m.phase = .awaiting ∨ part.1.filterMap Action.received? = [])
    (hended : part.2 = .error ending) : Finishes config greeting 1 l part := by
  have hending : part.ending = ending := by rw [Part.ending, hended]
  let final : Loop := { m with phase := .disconnected, next := (number l.next part.1).2 + 1 }
  refine ⟨1, Nat.le_refl 1, final, .last (hturn.trans ?_), rfl⟩
  simp only [Loop.follow, Loop.showAll_eq hphase, hended, hending, shown, hnext, Loop.emit, final]

/-- A turn that follows a part goes on with what comes behind it. -/
theorem finishes_andThen {next : State → Part}
    (hturn : l.turn config greeting = m.follow .awaiting part) (hnext : m.next = l.next)
    (hphase : m.phase = .awaiting ∨ part.1.filterMap Action.received? = [])
    (hrest : ∀ state, part.2 = .ok state → Finishes config greeting turns
      { m with phase := .awaiting, next := (number m.next part.1).2, state } (next state)) :
    Finishes config greeting (turns + 1) l (part.andThen next) := by
  obtain ⟨done, result⟩ := part
  cases result with
  | error ending =>
    obtain ⟨taken, hle, hexecution⟩ := finishes_of_ended hturn hnext hphase rfl
    exact ⟨taken, Nat.le_trans hle (Nat.le_add_left ..), hexecution⟩
  | ok state =>
    obtain ⟨taken, hle, final, hexecution, hfinal⟩ := hrest state rfl
    refine ⟨taken + 1, Nat.succ_le_succ hle, final, ?_, hfinal⟩
    have hshown : shown l.next (done ++ (next state).1) =
        (number m.next done).1 ++ shown (number m.next done).2 (next state).1 := by
      rw [shown, number_append, hnext, shown, List.append_assoc]
    show Execution _ _ _ _ (shown l.next (done ++ (next state).1)) _ _
    rw [hshown]
    refine .more (hturn.trans ?_) hexecution
    rw [Loop.follow, Loop.showAll_eq hphase]

end Turns

/-! ### What is left of a conversation -/

/-- What a client does that has these bytes buffered and these arrivals before it. -/
def toCome (config : Config) (peer : String) (s : State) (inbox : List Arrival) : Part :=
  (settle config s).andThen (meetAll config peer inbox)

theorem Part.andThen_assoc (part : Part) (next last : State → Part) :
    (part.andThen next).andThen last = part.andThen fun s => (next s).andThen last := by
  obtain ⟨done, result⟩ := part
  cases result with
  | error ending => rfl
  | ok s =>
    simp only [andThen]
    cases hnext : next s with
    | mk more result => cases result <;> simp

theorem Part.andThen_congr {part : Part} {f g : State → Part}
    (h : ∀ s, part.2 = .ok s → f s = g s) : part.andThen f = part.andThen g := by
  obtain ⟨done, result⟩ := part
  cases result with
  | error ending => rfl
  | ok s => simp only [andThen, h s rfl]

section ToCome

variable {config : Config} {peer : String} {s : State} {d : Packet.Decoder}

/-- A packet that is found is taken up, and the rest comes after it. -/
theorem toCome_of_packet {p : Packet} (h : s.decoder.nextLenient = (.ok (some p), d))
    (inbox : List Arrival) : toCome config peer s inbox =
      (take config p { s with decoder := d }).andThen fun t => toCome config peer t inbox := by
  rw [toCome, settle_of_some h, Part.andThen_assoc]
  rfl

/-- What cannot be read is dropped, and the same is still to come. -/
theorem toCome_of_error {e : Packet.Error} (h : s.decoder.nextLenient = (.error e, d))
    (inbox : List Arrival) :
    toCome config peer s inbox = toCome config peer { s with decoder := d } inbox := by
  rw [toCome, settle_of_error h, toCome]

/-- When nothing is found, what is still to come is what arrives. -/
theorem toCome_of_nothing (h : s.decoder.nextLenient = (.ok none, d)) (inbox : List Arrival) :
    toCome config peer s inbox = meetAll config peer inbox s := by
  rw [toCome, settle_of_none h]
  rfl

end ToCome

/-- Only bytes that arrive change the decoder. -/
theorem meet_decoder {config : Config} {peer : String} {a : Arrival} {s t : State}
    (hbytes : ∀ bs, a ≠ .bytes bs) (h : (meet config peer a s).2 = .ok t) :
    t.decoder = s.decoder := by
  cases a with
  | bytes bs => exact absurd rfl (hbytes bs)
  | fault fault => cases h
  | hangUp => cases h
  | line text =>
    have h : (sayLine config peer text s).2 = .ok t := h
    unfold sayLine at h
    split at h
    · cases h
      rfl
    · exact say_decoder h

/-! ### The loop comes to an end -/

/-- Bytes that are not read yet and arrivals that are still to come. -/
def left (s : State) (inbox : List Arrival) : Nat := unread s.decoder inbox + inbox.length

/-- A loop that waits, with the number of its next event. -/
abbrev waiting (n : Nat) (s : State) (inbox : List Arrival) : Loop := ⟨.awaiting, n, s, inbox⟩

/-- One turn of a waiting loop does this part of what is left of the conversation, and leaves less
to do with the arrivals behind it. -/
structure Advances (config : Config) (greeting : Greeting) (n : Nat) (s : State)
    (inbox : List Arrival) (part : Part) (behind : List Arrival) : Prop where
  turn_eq : (waiting n s inbox).turn config greeting = (waiting n s behind).follow .awaiting part
  toCome_eq : toCome config greeting.peer s inbox =
    part.andThen fun t => toCome config greeting.peer t behind
  less : ∀ t, part.2 = .ok t → left t behind < left s inbox

section Advances

variable {config : Config} {greeting : Greeting} {n : Nat} {s : State} {d : Packet.Decoder}
  {inbox : List Arrival}

/-- What is found in the buffer uses up some of it. -/
theorem less_of_found {found : Except Packet.Error (Option Packet)}
    (h : s.decoder.nextLenient = (found, d)) (hne : found ≠ .ok none) :
    unread d inbox + inbox.length < left s inbox := by
  have hless := Packet.Decoder.buffered_nextLenient (d := s.decoder) (by rwa [h])
  rw [h] at hless
  have hless : d.buffered < s.decoder.buffered := hless
  simp only [left, unread]
  omega

/-- A packet error empties the buffer, so that the loop does not look at the same bytes again. -/
theorem advances_of_error {e : Packet.Error} (h : s.decoder.nextLenient = (.error e, d)) :
    Advances config greeting n s inbox ([], .ok { s with decoder := d }) inbox where
  turn_eq := by simp only [Loop.turn, h]
  toCome_eq := toCome_of_error h inbox
  less := by
    rintro t ⟨⟩
    exact less_of_found h (by simp)

/-- Taking up a packet is an advance: its bytes are gone from the buffer. -/
theorem advances_of_packet {p : Packet} (h : s.decoder.nextLenient = (.ok (some p), d)) :
    Advances config greeting n s inbox (take config p { s with decoder := d }) inbox where
  turn_eq := by simp only [Loop.turn, h]
  toCome_eq := toCome_of_packet h inbox
  less := fun t ht => by
    rw [left, take_decoder ht]
    exact less_of_found h (by simp)

/-- Where nothing is found, the turn takes one arrival. -/
theorem advances_of_arrival (h : s.decoder.nextLenient = (.ok none, s.decoder)) (a : Arrival)
    (rest : List Arrival) : ∃ part, Advances config greeting n s (a :: rest) part rest := by
  have hleft : left s (a :: rest) =
      s.decoder.buffered + (a.size + (rest.map Arrival.size).sum) + (rest.length + 1) := by
    rw [left, unread, List.map_cons, List.sum_cons, List.length_cons]
  by_cases hbytes : ∃ bs, a = .bytes bs
  · obtain ⟨bs, rfl⟩ := hbytes
    refine ⟨([], .ok { s with decoder := s.decoder.extend bs }), ?_, ?_, ?_⟩
    · simp only [Loop.turn, h]
    · rw [toCome_of_nothing h]
      rfl
    · rintro t ⟨⟩
      rw [hleft, left, unread, Packet.Decoder.extend, Packet.Decoder.buffered, List.length_append]
      simp only [Packet.Decoder.buffered, Arrival.size]
      omega
  · have hother : ∀ bs, a ≠ .bytes bs := fun bs ha => hbytes ⟨bs, ha⟩
    refine ⟨meet config greeting.peer a s, ?_, ?_, fun t ht => ?_⟩
    · cases a with
      | bytes bs => exact absurd rfl (hother bs)
      | _ => simp only [Loop.turn, h]
    · rw [toCome_of_nothing h, meetAll]
      refine Part.andThen_congr fun t ht => ?_
      have hnothing : t.decoder.nextLenient = (.ok none, t.decoder) := by
        rw [meet_decoder hother ht]
        exact h
      exact (toCome_of_nothing hnothing rest).symm
    · rw [hleft, left, meet_decoder hother ht, unread]
      omega

/-- At the end of the stream the turn is the last one. -/
theorem finishes_of_nothing (h : s.decoder.nextLenient = (.ok none, s.decoder)) :
    Finishes config greeting 1 (waiting n s []) (toCome config greeting.peer s []) := by
  let ended : Part := ([], .error (.ok ()))
  have hturn : (waiting n s []).turn config greeting = (waiting n s []).follow .awaiting ended := by
    simp only [Loop.turn, h, ended]
  have hended : Finishes config greeting 1 (waiting n s []) ended :=
    finishes_of_ended hturn rfl (.inl rfl) rfl
  rw [toCome_of_nothing h]
  exact hended

end Advances

/-- **The loop ends**, as every turn leaves less to do, and until then it does what is left of the
conversation. -/
theorem finishes_of_waiting (config : Config) (greeting : Greeting) (n : Nat) (s : State)
    (inbox : List Arrival) :
    Finishes config greeting (left s inbox + 1) (waiting n s inbox)
      (toCome config greeting.peer s inbox) := by
  -- on what is left to be read: each turn but the last leaves less of it
  induction hleft : left s inbox using Nat.strongRecOn generalizing n s inbox with
  | ind m ih =>
  subst hleft
  have hgo : ∀ {part behind}, Advances config greeting n s inbox part behind →
      Finishes config greeting (left s inbox + 1) (waiting n s inbox)
        (toCome config greeting.peer s inbox) := by
    intro part behind hadvance
    rw [hadvance.toCome_eq]
    refine finishes_andThen hadvance.turn_eq rfl (.inl rfl) fun t ht => ?_
    have hless := hadvance.less t ht
    obtain ⟨taken, hle, hfinishes⟩ := ih _ hless (number n part.1).2 t behind rfl
    exact ⟨taken, Nat.le_trans hle hless, hfinishes⟩
  cases hfound : s.decoder.nextLenient with
  | mk found d =>
  cases found with
  | error e => exact hgo (advances_of_error hfound)
  | ok found =>
    cases found with
    | some p => exact hgo (advances_of_packet hfound)
    | none =>
      obtain rfl := nextLenient_none hfound
      cases inbox with
      | nil =>
        obtain ⟨taken, hle, hfinishes⟩ := finishes_of_nothing hfound
        exact ⟨taken, Nat.le_trans hle (Nat.le_add_left ..), hfinishes⟩
      | cons a rest =>
        obtain ⟨part, hadvance⟩ := advances_of_arrival hfound a rest
        exact hgo hadvance

/-! ### Login and greeting -/

theorem received_say (config : Config) (p : Packet) (s : State) :
    (say config p s).1.filterMap Action.received? = [] := by
  simp only [say, wrote]
  split <;> rfl

theorem received_greet (config : Config) (greeting : Greeting) (s : State) :
    (greet config greeting s).1.filterMap Action.received? = [] := by
  have hlogin := received_say config (.login config.host) s
  rw [greet]
  cases hsay : say config (.login config.host) s with
  | mk done result =>
    rw [hsay] at hlogin
    cases result with
    | error ending => exact hlogin
    | ok t =>
      simp only [Part.andThen, List.filterMap_append, received_say, List.append_nil]
      exact hlogin

theorem greet_decoder {config : Config} {greeting : Greeting} {s t : State}
    (h : (greet config greeting s).2 = .ok t) : t.decoder = s.decoder := by
  obtain ⟨u, hu, ht⟩ := Part.andThen_eq_ok_iff.1 h
  exact (say_decoder ht).trans (say_decoder hu)

/-- What a client says first is the end of it if it cannot be built or written. -/
theorem greet_eq_error {config : Config} {greeting : Greeting} {sink : Sink} {e : Error}
    (h : (transmit config.bufferSize sink (.login config.host)).result = .error e ∨
      (∃ n, (transmit config.bufferSize sink (.login config.host)).result = .ok n) ∧
        (transmit config.bufferSize (transmit config.bufferSize sink (.login config.host)).sink
          (.echo greeting.peer greeting.message)).result = .error e) :
    (greet config greeting { sink }).2 = .error (.error e) := by
  rcases h with hlogin | ⟨⟨n, hlogin⟩, hgreeting⟩
  · simp only [greet, say, hlogin, Part.andThen]
  · simp only [greet, say, hlogin, hgreeting, Part.andThen]

/-- The first turn is login and greeting, in the first phase; the loop waits after it, with an empty
buffer. -/
theorem execution_of_start (config : Config) (greeting : Greeting) (sink : Sink)
    (inbox : List Arrival) :
    ∃ turns ≤ (inbox.map Arrival.size).sum + inbox.length + 2, ∃ final,
      Execution config greeting turns { state := { sink }, inbox }
        (run config greeting sink inbox).1 final (run config greeting sink inbox).2 ∧
      final.phase = .disconnected := by
  let start : Loop := { state := { sink }, inbox }
  let part := (greet config greeting { sink }).andThen (meetAll config greeting.peer inbox)
  have hran : run config greeting sink inbox =
      (.event 1 .connected .connected :: shown 2 part.1, part.ending) := rfl
  have hshow : Loop.showAll ⟨.connected, 2, { sink }, inbox⟩ (greet config greeting { sink }).1 = _ :=
    Loop.showAll_eq (.inr (received_greet config greeting { sink }))
  rw [hran]
  cases hgreet : greet config greeting { sink } with
  | mk done result =>
  rw [hgreet] at hshow
  cases result with
  | error ending =>
    have hpart : part = (done, .error ending) := by simp only [part, hgreet, Part.andThen]
    let final : Loop := ⟨.disconnected, (number 2 done).2 + 1, { sink }, inbox⟩
    refine ⟨1, by omega, final, .last ?_, rfl⟩
    rw [hpart]
    simp only [Loop.turn, Loop.emit, Loop.follow, hgreet, hshow, shown, final]
    rfl
  | ok t =>
    have hdecoder : t.decoder = {} := greet_decoder (by rw [hgreet])
    have hnothing : t.decoder.nextLenient = (.ok none, {}) := by
      rw [hdecoder]
      rfl
    have hpart : part = Part.andThen (done, .ok t) (toCome config greeting.peer · inbox) := by
      simp only [part, hgreet, Part.andThen, toCome_of_nothing hnothing]
    have hshown : shown 2 part.1 = (number 2 done).1 ++
        shown (number 2 done).2 (toCome config greeting.peer t inbox).1 := by
      simp only [hpart, Part.andThen, shown, number_append, List.append_assoc]
    obtain ⟨turns, hle, final, hexecution, hphase⟩ :=
      finishes_of_waiting config greeting (number 2 done).2 t inbox
    refine ⟨turns + 1, ?_, final, ?_, hphase⟩
    · have hleft : left t inbox = (inbox.map Arrival.size).sum + inbox.length := by
        simp only [left, unread, hdecoder, Packet.Decoder.buffered, List.length_nil, Nat.zero_add]
      omega
    · have hfirst : start.turn config greeting =
          (.event 1 .connected .connected :: (number 2 done).1,
            waiting (number 2 done).2 t inbox, none) := by
        simp only [start, Loop.turn, Loop.emit, Loop.follow, hgreet, hshow]
      rw [hshown, hpart]
      exact .more hfirst hexecution

/-! ### Events -/

/-- Number, phase and event of a record that reports one. -/
def Record.event? : Record → Option (Nat × Phase × Event)
  | .wrote _ => none
  | .event n phase what => some (n, phase, what)

/-- The events of a conversation are its packets, numbered from the first. -/
theorem number_events (n : Nat) (done : List Action) :
    ((number n done).1.filterMap Record.event? =
      ((done.filterMap Action.received?).zipIdx n).map fun (p, i) => (i, .awaiting, .received p)) ∧
    (number n done).1.filterMap Record.received? = done.filterMap Action.received? ∧
    (number n done).2 = n + (done.filterMap Action.received?).length := by
  induction done generalizing n with
  | nil => exact ⟨rfl, rfl, rfl⟩
  | cons action rest ih =>
    cases action with
    | wrote bytes => exact ih n
    | received p =>
      obtain ⟨hevents, hpackets, hnext⟩ := ih (n + 1)
      refine ⟨congrArg (_ :: ·) hevents, congrArg (_ :: ·) hpackets, ?_⟩
      simp only [number, List.filterMap_cons, Action.received?, List.length_cons, hnext]
      omega

/-- **The life of a client**, whatever arrives and whatever the stream does with what is written.
Its loop ends, after no more turns than there are bytes and arrivals, and two; it shows then what
`run` gives, ends as `run` does, and is in the last phase. Its events are numbered from 1 on without
a gap: first that it is connected, in the first phase; then the packets received, in the waiting
phase; and at last that it is disconnected, in the last phase. Where login or greeting cannot be
built or written no packet is received, so that these two are the only events, and the ending is
that error. -/
theorem run_life_cycle (config : Config) (greeting : Greeting) (sink : Sink) (console : Console)
    (script : List ScriptStep) :
    let inbox := arrivals config.bufferSize console script
    let ran := run config greeting sink inbox
    let packets := ran.1.filterMap Record.received?
    let login := transmit config.bufferSize sink (.login config.host)
    let hello := transmit config.bufferSize login.sink (.echo greeting.peer greeting.message)
    (∃ turns ≤ (inbox.map Arrival.size).sum + inbox.length + 2, ∃ final,
      Execution config greeting turns { state := { sink }, inbox } ran.1 final ran.2 ∧
        final.phase = .disconnected) ∧
    ran.1.filterMap Record.event? =
      (1, .connected, .connected) ::
        (packets.zipIdx 2).map (fun (p, n) => (n, .awaiting, .received p)) ++
        [(packets.length + 2, .disconnected, .disconnected)] ∧
    ∀ e, login.result = .error e ∨ (∃ n, login.result = .ok n) ∧ hello.result = .error e →
      packets = [] ∧ ran.2 = .error e := by
  intro inbox ran packets login hello
  let part := (greet config greeting { sink }).andThen (meetAll config greeting.peer inbox)
  have hran : ran = (.event 1 .connected .connected :: shown 2 part.1, part.ending) := rfl
  obtain ⟨hevents, hpackets, hnext⟩ := number_events 2 part.1
  have hreceived : packets = part.1.filterMap Action.received? := by
    rw [← hpackets]
    simp only [packets, hran, shown, List.filterMap_cons, List.filterMap_append, Record.received?,
      List.filterMap_nil, List.append_nil]
  refine ⟨execution_of_start config greeting sink inbox, ?_, fun e he => ?_⟩
  · rw [hreceived, hran]
    simp only [shown, List.filterMap_cons, List.filterMap_append, hevents, Record.event?, hnext,
      List.filterMap_nil, Nat.add_comm]
    rfl
  · have hgreet := greet_eq_error he
    have hpart : part = greet config greeting { sink } := by
      simp only [part]
      cases hg : greet config greeting { sink } with
      | mk done result =>
        rw [hg] at hgreet
        cases hgreet
        rfl
    rw [hreceived, hran, hpart, received_greet, Part.ending, hgreet]
    exact ⟨rfl, rfl⟩

/-- A stream that fails behind the login, in the middle of the greeting: what the server sends is
not looked at. -/
theorem run_life_cycle_torn :
    let config : Config := ⟨"mock", "C2", 64⟩
    let sink : Sink := { budget := some (15, .fails ⟨.brokenPipe, "gone"⟩) }
    let ran := run config ⟨"p", [72]⟩ sink
      (arrivals 64 (.opened []) [.data [65, 0, 0, 0, 0, 0, 0, 0, 112, 0, 120, 0], .hangUp])
    (transmit 64 sink (.login "C2")).result = .ok 12 ∧
    (transmit 64 (transmit 64 sink (.login "C2")).sink (.echo "p" [72])).result =
      .error (.io ⟨.brokenPipe, "gone"⟩) ∧
    ran.1.filterMap Record.event? = [(1, .connected, .connected), (2, .disconnected, .disconnected)] ∧
    ran.2 = .error (.io ⟨.brokenPipe, "gone"⟩) := by
  intro config sink ran
  have hlogin : (transmit 64 sink (.login "C2")).result = .ok 12 := by with_unfolding_all rfl
  have hgreeting : (transmit 64 (transmit 64 sink (.login "C2")).sink (.echo "p" [72])).result =
      .error (.io ⟨.brokenPipe, "gone"⟩) := by with_unfolding_all rfl
  obtain ⟨-, hevents, hfails⟩ := run_life_cycle config ⟨"p", [72]⟩ sink (.opened [])
    [.data [65, 0, 0, 0, 0, 0, 0, 0, 112, 0, 120, 0], .hangUp]
  obtain ⟨hnone, hending⟩ := hfails _ (.inr ⟨⟨12, hlogin⟩, hgreeting⟩)
  refine ⟨hlogin, hgreeting, ?_, hending⟩
  rw [hnone] at hevents
  exact hevents

end Courier.Link.Conversation
