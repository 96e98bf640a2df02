import Courier.Proofs.Link.Story
import Courier.Proofs.Link.Writing

/-! The deeds of a story that are done.

They are done in order, up to the first packet that cannot be said: one that does not fit, or that
has no frame at all (`perform`). `Performs` says that a part of a conversation does just these, on a
stream that lasts, and goes on if all of them were done. It composes, so that a run without a fault
of the socket performs its story, and ends with the error of the packet that could not be said, or
else well (`run_eq_perform`). -/
namespace Courier.Link.Conversation

open Packet (Decoder)

/-! ### What can be said -/

/-- A packet that has a frame which fits. -/
structure Fits (capacity : Nat) (p : Packet) : Prop where
  size_le : p.size ≤ capacity
  sendable : p.Sendable

theorem build_of_fits {capacity : Nat} {p : Packet} (h : Fits capacity p) :
    p.build capacity = .ok p.frame :=
  Packet.build_eq_ok_iff.2 ⟨h.size_le, h.sendable, rfl⟩

theorem fits_of_build {capacity : Nat} {p : Packet} {frame : Bytes}
    (h : p.build capacity = .ok frame) : Fits capacity p ∧ frame = p.frame := by
  obtain ⟨hsize, hsend, hframe⟩ := Packet.build_eq_ok_iff.1 h
  exact ⟨⟨hsize, hsend⟩, hframe⟩

/-- The deeds that are done, and why the next one is not. -/
def perform (capacity : Nat) : List Deed → List Deed × Option Packet.Error
  | [] => ([], none)
  | .heard p :: rest => (.heard p :: (perform capacity rest).1, (perform capacity rest).2)
  | .said p :: rest =>
    match p.build capacity with
    | .error e => ([], some e)
    | .ok _ => (.said p :: (perform capacity rest).1, (perform capacity rest).2)

/-- The bytes of what is said. -/
def spoken (deeds : List Deed) : Bytes := (deeds.filterMap Deed.said?).flatMap Packet.frame

@[simp] theorem spoken_nil : spoken [] = [] := rfl

@[simp] theorem spoken_said (p : Packet) (rest : List Deed) :
    spoken (.said p :: rest) = p.frame ++ spoken rest := rfl

@[simp] theorem spoken_heard (p : Packet) (rest : List Deed) :
    spoken (.heard p :: rest) = spoken rest := rfl

theorem spoken_append (a b : List Deed) : spoken (a ++ b) = spoken a ++ spoken b := by
  rw [spoken, List.filterMap_append, List.flatMap_append, ← spoken, ← spoken]

/-- Deeds are done one after the other: those of a second story only when all of the first are done.
-/
theorem perform_append (capacity : Nat) (a b : List Deed) :
    perform capacity (a ++ b) = match (perform capacity a).2 with
      | some e => ((perform capacity a).1, some e)
      | none => ((perform capacity a).1 ++ (perform capacity b).1, (perform capacity b).2) := by
  induction a with
  | nil => rfl
  | cons deed rest ih =>
    cases deed with
    | heard p =>
      rw [List.cons_append, perform, perform, ih]
      cases (perform capacity rest).2 <;> rfl
    | said p =>
      rw [List.cons_append, perform, perform]
      cases p.build capacity with
      | error e => rfl
      | ok frame =>
        simp only
        rw [ih]
        cases (perform capacity rest).2 <;> rfl

/-- A story of which all packets fit is told to its end. -/
theorem perform_of_fits {capacity : Nat} {deeds : List Deed}
    (h : ∀ p, .said p ∈ deeds → Fits capacity p) : perform capacity deeds = (deeds, none) := by
  induction deeds with
  | nil => rfl
  | cons deed rest ih =>
    have hrest := ih fun p hp => h p (List.mem_cons_of_mem _ hp)
    cases deed with
    | heard p => rw [perform, hrest]
    | said p => simp only [perform, build_of_fits (h p (List.mem_cons_self ..)), hrest]

/-! ### Parts that perform deeds -/

/-- The part of a conversation that performs deeds, and leaves this decoder. -/
def performed (capacity : Nat) (sink : Sink) (deeds : List Deed) (d : Decoder) : Part :=
  let (done, refused) := perform capacity deeds
  (done.map Deed.action,
    match refused with
    | some e => .error (.error (.packet e))
    | none => .ok ⟨d, sink.spend (spoken done).length⟩)

/-- On a stream that lasts, a part performs deeds. -/
def Performs (capacity : Nat) (part : Part) (sink : Sink) (deeds : List Deed) (d : Decoder) :
    Prop :=
  sink.Lasts (spoken (perform capacity deeds).1).length → part = performed capacity sink deeds d

/-- Two parts that perform their deeds perform them one after the other. -/
theorem Performs.andThen {capacity : Nat} {part : Part} {next : State → Part} {sink : Sink}
    {a b : List Deed} {d e : Decoder} (hp : Performs capacity part sink a d)
    (hn : ∀ t, t.decoder = d → Performs capacity (next t) t.sink b e) :
    Performs capacity (part.andThen next) sink (a ++ b) e := by
  intro hlasts
  rw [performed]
  rw [perform_append] at hlasts ⊢
  cases hrefused : (perform capacity a).2 with
  | some error =>
    simp only [hrefused] at hlasts ⊢
    rw [hp hlasts, performed]
    simp only [hrefused, Part.andThen]
  | none =>
    simp only [hrefused, spoken_append, List.length_append] at hlasts ⊢
    rw [hp hlasts.front, performed]
    simp only [hrefused, Part.andThen]
    have hnext := hn ⟨d, sink.spend (spoken (perform capacity a).1).length⟩ rfl hlasts.spend
    rw [hnext, performed]
    simp only [List.map_append, Sink.spend_spend]

/-- On a stream that lasts, a conversation performs deeds and ends with the first that cannot be
done, or else well. -/
def Ends (capacity : Nat) (part : Part) (sink : Sink) (deeds : List Deed) : Prop :=
  sink.Lasts (spoken (perform capacity deeds).1).length →
    part.1 = (perform capacity deeds).1.map Deed.action ∧
    part.ending = match (perform capacity deeds).2 with
      | some e => .error (.packet e)
      | none => .ok ()

/-- A part that performs its deeds may be the first of one that ends with them. -/
theorem Performs.andThen_ends {capacity : Nat} {part : Part} {next : State → Part} {sink : Sink}
    {a b : List Deed} {d : Decoder} (hp : Performs capacity part sink a d)
    (hn : ∀ t, t.decoder = d → Ends capacity (next t) t.sink b) :
    Ends capacity (part.andThen next) sink (a ++ b) := by
  intro hlasts
  rw [perform_append] at hlasts ⊢
  cases hrefused : (perform capacity a).2 with
  | some error =>
    simp only [hrefused] at hlasts ⊢
    rw [hp hlasts, performed]
    simp only [hrefused, Part.andThen, Part.ending, and_self]
  | none =>
    simp only [hrefused, spoken_append, List.length_append] at hlasts ⊢
    rw [hp hlasts.front, performed]
    simp only [hrefused, Part.andThen]
    obtain ⟨hdone, hending⟩ :=
      hn ⟨d, sink.spend (spoken (perform capacity a).1).length⟩ rfl hlasts.spend
    exact ⟨by rw [hdone, List.map_append], hending⟩

theorem performs_nothing (capacity : Nat) (s : State) :
    Performs capacity ([], .ok s) s.sink [] s.decoder := by
  intro _
  simp [performed, perform, Sink.spend_zero]

theorem performs_say (config : Config) (p : Packet) (s : State) :
    Performs config.bufferSize (say config p s) s.sink [.said p] s.decoder := by
  intro hlasts
  cases hbuild : p.build config.bufferSize with
  | error e => simp [say, Connection.transmit, performed, perform, hbuild, wrote]
  | ok frame =>
    obtain ⟨-, rfl⟩ := fits_of_build hbuild
    have hspoken : (spoken (perform config.bufferSize [.said p]).1) = p.frame := by
      simp [perform, hbuild]
    rw [hspoken] at hlasts
    simp [say, Connection.transmit, performed, perform, hbuild, wrote, Sink.writeAll_of_lasts hlasts,
      p.frame_ne_nil, Deed.action]

/-- Taking up a packet does the deeds on it: an echo request is answered first. -/
theorem performs_take (config : Config) (peer : String) (p : Packet) (s : State) :
    Performs config.bufferSize (take config p s) s.sink (deedsOn peer (.packet p)) s.decoder := by
  have hheard : ∀ t : State,
      Performs config.bufferSize ([.received p], .ok t) t.sink [.heard p] t.decoder := fun t _ => by
    simp [performed, perform, Deed.action, Sink.spend_zero]
  by_cases hecho : p.command = 65
  · have hdeeds : deedsOn peer (.packet p) = [.said p.echoAnswer] ++ [.heard p] := by
      simp [deedsOn, hecho, Packet.echoAnswer, Packet.echoAnswerCommand]
    rw [hdeeds, take, answer, if_pos (show p.command = Packet.echoCommand from hecho)]
    exact (performs_say config p.echoAnswer s).andThen fun t ht => ht ▸ hheard t
  · have hdeeds : deedsOn peer (.packet p) = [] ++ [.heard p] := by simp [deedsOn, hecho]
    rw [hdeeds, take, answer, if_neg (show ¬p.command = Packet.echoCommand from hecho)]
    exact (performs_nothing _ s).andThen fun t ht => ht ▸ hheard t

theorem performs_sayLine (config : Config) (peer text : String) (s : State) :
    Performs config.bufferSize (sayLine config peer text s) s.sink (deedsOn peer (.line text))
      s.decoder := by
  cases htrim : Text.trimEnd text.toList with
  | nil =>
    simp only [sayLine, deedsOn, htrim, if_true]
    exact performs_nothing _ s
  | cons c cs =>
    simp only [sayLine, deedsOn, htrim, reduceCtorEq, if_false]
    exact performs_say config (.echo peer _) s

/-- Settling does the deeds of all packets that can be drained. -/
theorem performs_settle (config : Config) (peer : String) {s : State} {d : Decoder}
    (hd : s.decoder = d) :
    Performs config.bufferSize (settle config s) s.sink
      ((d.drain.1.map Occurrence.packet).flatMap (deedsOn peer)) d.drain.2 := by
  fun_induction Decoder.drain d generalizing s with
  | case1 d _ h =>
    subst hd
    rw [settle_of_none h]
    exact performs_nothing _ s
  | case2 d e rest h ih =>
    subst hd
    rw [settle_of_error h]
    exact ih rfl
  | case3 d p rest h ih =>
    subst hd
    rw [settle_of_some h, List.map_cons, List.flatMap_cons]
    exact (performs_take config peer p _).andThen fun t ht => ih ht

/-! ### Whole conversations -/

theorem ends_over (capacity : Nat) (sink : Sink) : Ends capacity ([], .error (.ok ())) sink [] :=
  fun _ => ⟨rfl, rfl⟩

/-- Meeting an inbox in which no socket fails does the deeds of all that occurs, and ends there. -/
theorem ends_meetAll (config : Config) (peer : String) {s : State} {d : Decoder}
    {inbox : List Arrival} (hfault : ∀ fault, .fault fault ∉ inbox) (hd : s.decoder = d) :
    Ends config.bufferSize (meetAll config peer inbox s) s.sink
      ((occurrences d inbox).flatMap (deedsOn peer)) := by
  induction inbox generalizing s d with
  | nil => exact fun _ => ⟨rfl, rfl⟩
  | cons a rest ih =>
    have hrest : ∀ fault, .fault fault ∉ rest := fun fault hin =>
      hfault fault (List.mem_cons_of_mem _ hin)
    cases a with
    | bytes bs =>
      have hext : s.decoder.extend bs = d.extend bs := by rw [hd]
      rw [occurrences, List.flatMap_append]
      exact (performs_settle config peer hext).andThen_ends fun t ht => ih hrest ht
    | line text =>
      rw [occurrences, List.flatMap_cons]
      exact (performs_sayLine config peer text s).andThen_ends fun t ht => ih hrest (ht.trans hd)
    | hangUp => exact ends_over _ _
    | fault fault => exact absurd (List.mem_cons_self ..) (hfault fault)

/-- **What a run does** on a stream that lasts, if there is no fault of the socket: the deeds of
its story, up to the first packet that cannot be said. -/
theorem run_eq_perform {config : Config} {greeting : Greeting} {sink : Sink} {inbox : List Arrival}
    (hfault : ∀ fault, .fault fault ∉ inbox)
    (hlasts : sink.Lasts (spoken (perform config.bufferSize (story config greeting inbox)).1).length) :
    run config greeting sink inbox =
      (.event 1 .connected .connected ::
          tell 2 (perform config.bufferSize (story config greeting inbox)).1,
        match (perform config.bufferSize (story config greeting inbox)).2 with
        | some e => .error (.packet e)
        | none => .ok ()) := by
  have hgreet : Performs config.bufferSize (greet config greeting { sink }) sink
      ([.said (.login config.host)] ++ [.said (.echo greeting.peer greeting.message)]) {} :=
    (performs_say config (.login config.host) { sink }).andThen fun t ht => by
      have hsecond := performs_say config (.echo greeting.peer greeting.message) t
      rwa [ht] at hsecond
  obtain ⟨hdone, hending⟩ :=
    hgreet.andThen_ends (fun t ht => ends_meetAll config greeting.peer hfault ht) hlasts
  rw [run, converse]
  simp only
  rw [hdone, hending, report]
  simp only [List.cons_append, number_actions]
  rfl

end Courier.Link.Conversation
