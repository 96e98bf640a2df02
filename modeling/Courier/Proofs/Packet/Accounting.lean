import Courier.Proofs.Packet.Stream
import Courier.Proofs.Packet.Verdict

/-! Where the bytes of a stream go.

Each call of a decoder uses up bytes at the front of what it holds, and its answer says which
(`Uses`): the bytes that a packet was read from, everything when the lenient reading drops it, and
nothing otherwise. So whatever is fed, and however it is read, the bytes fed are those used up one
after the other and those still held (`fed_accounted`). As a packet takes more bytes than a header
has, lenient reads give packets only so many times in a row. -/
namespace Courier.Packet.Decoder

/-- What a call uses up of the buffer that it finds, by what it answers. -/
inductive Uses (buffer : Bytes) : Call → Option Answer → Bytes → Prop where
  | fed (bs : Bytes) : Uses buffer (.extend bs) none []
  | packet {c : Call} {p : Packet} {bs : Bytes} (read : c.isRead = true) (carries : Carries bs p) :
      Uses buffer c (some (.ok (some p))) bs
  | waits {c : Call} (read : c.isRead = true) : Uses buffer c (some (.ok none)) []
  | refuses (e : Error) : Uses buffer .next (some (.error e)) []
  | drops (e : Error) : Uses buffer .nextLenient (some (.error e)) buffer

/-- What calls use up one after the other: at each of them the bytes held and fed before it are the
bytes that it uses up and those held after it. -/
inductive Accounts : Decoder → List Call → List Bytes → Prop where
  | nil (d : Decoder) : Accounts d [] []
  | cons {d : Decoder} {c : Call} {rest : List Call} {used : Bytes} {more : List Bytes}
      (uses : Uses d.buffer c (d.call c).1 used)
      (balance : d.buffer ++ c.fed = used ++ (d.call c).2.buffer)
      (after : Accounts (d.call c).2 rest more) : Accounts d (c :: rest) (used :: more)

/-! ### One call -/

/-- A strict read has used up what is gone from the buffer. -/
theorem uses_next (d : Decoder) :
    ∃ used, Uses d.buffer .next (some d.next.1) used ∧ d.buffer = used ++ d.next.2.buffer := by
  unfold next
  split
  · next p rest h =>
    obtain ⟨header, hlen, hbuffer⟩ := decode_eq_some h
    exact ⟨_, .packet rfl (carries_cons hlen), hbuffer⟩
  · exact ⟨[], .waits rfl, rfl⟩
  · exact ⟨[], .refuses _, rfl⟩

/-- So has a lenient one, also where it dropped everything. -/
theorem uses_nextLenient (d : Decoder) :
    ∃ used, Uses d.buffer .nextLenient (some d.nextLenient.1) used ∧
      d.buffer = used ++ d.nextLenient.2.buffer := by
  unfold nextLenient
  split
  · next p rest h =>
    obtain ⟨header, hlen, hbuffer⟩ := decode_eq_some h
    exact ⟨_, .packet rfl (carries_cons hlen), hbuffer⟩
  · exact ⟨[], .waits rfl, rfl⟩
  · cases hparse : parse d.buffer with
    | error e => exact ⟨d.buffer, .drops e, (List.append_nil _).symm⟩
    | ok p =>
      obtain ⟨header, hlen, hbuffer⟩ := parse_eq_ok hparse
      exact ⟨_, .packet rfl (carries_cons hlen), by rw [← hbuffer, List.append_nil]⟩

/-- Any call has used up what is gone from the buffer and from the bytes it brought. -/
theorem uses_call (d : Decoder) (c : Call) :
    ∃ used, Uses d.buffer c (d.call c).1 used ∧
      d.buffer ++ c.fed = used ++ (d.call c).2.buffer := by
  cases c with
  | extend bs => exact ⟨[], .fed bs, rfl⟩
  | next =>
    obtain ⟨used, huses, hbalance⟩ := d.uses_next
    exact ⟨used, huses, (List.append_nil _).trans hbalance⟩
  | nextLenient =>
    obtain ⟨used, huses, hbalance⟩ := d.uses_nextLenient
    exact ⟨used, huses, (List.append_nil _).trans hbalance⟩

/-! ### Calls one after the other -/

theorem fed_cons (c : Call) (rest : List Call) : fed (c :: rest) = c.fed ++ fed rest :=
  List.flatMap_cons

/-- After some calls the bytes fed are those used up, call by call, and those still held. -/
theorem accounts_run (d : Decoder) (calls : List Call) :
    ∃ segments, Accounts d calls segments ∧
      d.buffer ++ fed calls = segments.flatten ++ (d.run calls).2.buffer := by
  induction calls generalizing d with
  | nil => exact ⟨[], .nil d, List.append_nil _⟩
  | cons c rest ih =>
    obtain ⟨used, huses, hbalance⟩ := d.uses_call c
    obtain ⟨more, hafter, hmore⟩ := ih (d.call c).2
    refine ⟨used :: more, .cons huses hbalance hafter, ?_⟩
    calc d.buffer ++ fed (c :: rest)
        = used ++ ((d.call c).2.buffer ++ fed rest) := by
          rw [fed_cons, ← List.append_assoc, hbalance, List.append_assoc]
      _ = (used :: more).flatten ++ (d.run (c :: rest)).2.buffer := by
          rw [hmore, List.flatten_cons, List.append_assoc, run_cons]

/-! ### Lenient reads in a row -/

/-- A packet that is read takes more than a header off the buffer. -/
theorem header_lt_of_nextLenient {d rest : Decoder} {p : Packet}
    (h : d.nextLenient = (.ok (some p), rest)) : rest.buffered + headerSize < d.buffered := by
  obtain ⟨used, huses, hbalance⟩ := d.uses_nextLenient
  rw [h] at huses hbalance
  cases huses with
  | packet _ hcarries =>
    have hlt := hcarries.header_lt
    have hsum : d.buffered = used.length + rest.buffered :=
      (congrArg List.length hbalance).trans List.length_append
    omega

/-- Lenient reads give packets until one does not. -/
theorem lenient_stops (d : Decoder) :
    ∃ packets : List Packet, (headerSize + 1) * packets.length ≤ d.buffered ∧
      let reads := d.run (List.replicate packets.length .nextLenient)
      reads.1 = packets.map (fun p => .ok (some p)) ∧
      ∀ p, reads.2.nextLenient.1 ≠ .ok (some p) := by
  induction hn : d.buffered using Nat.strongRecOn generalizing d with
  | _ n ih =>
    subst hn
    rcases h : d.nextLenient with ⟨answer, rest⟩
    by_cases hpacket : ∃ p, answer = .ok (some p)
    · obtain ⟨p, rfl⟩ := hpacket
      have hlt := header_lt_of_nextLenient h
      obtain ⟨packets, hle, hreads, hstops⟩ := ih rest.buffered (by omega) rest rfl
      refine ⟨p :: packets, ?_, ?_⟩
      · rw [List.length_cons, Nat.mul_succ]
        omega
      · simp only [List.length_cons, List.replicate_succ, run_cons, call, h, Option.toList_some,
          List.singleton_append, List.map_cons, hreads, true_and]
        exact hstops
    · refine ⟨[], Nat.zero_le _, rfl, fun p hp => hpacket ⟨p, ?_⟩⟩
      exact (congrArg Prod.fst h).symm.trans hp

/-! ### All bytes -/

/-- **No byte is lost, read twice or read out of order**, whatever bytes are fed and whatever reads
come between them: the bytes fed are those that the calls used up, each as its answer says, and then
those in the buffer. From there lenient reads give packets only until one does not, and at most one
for every nine bytes. -/
theorem fed_accounted (calls : List Call) :
    let d := (run {} calls).2
    (∃ segments, Accounts {} calls segments ∧ fed calls = segments.flatten ++ d.buffer) ∧
      ∃ packets : List Packet, (headerSize + 1) * packets.length ≤ d.buffered ∧
        let reads := d.run (List.replicate packets.length .nextLenient)
        reads.1 = packets.map (fun p => .ok (some p)) ∧
          ∀ p, reads.2.nextLenient.1 ≠ .ok (some p) :=
  ⟨accounts_run {} calls, lenient_stops _⟩

end Courier.Packet.Decoder
