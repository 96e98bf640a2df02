import Courier.Http.Session

/-! What a session sends, and what comes back.

`Trace` says which requests a session sends, with the reply to each, and which answer it ends in;
the replies may be any at all. Every play of a session is a trace, with the replies of its server
(`trace_play`). -/
namespace Courier.Http.Session

/-- What was sent, each request with its reply. -/
abbrev Log := List (Request × Reply)

variable {σ α β ε : Type}

/-- A session may send the requests of a log and end in an answer, if the replies are those of the
log. -/
inductive Trace : Session α → Log → α → Prop where
  | done {answer} : Trace (.done answer) [] answer
  | print {line next log answer} : Trace next log answer → Trace (.print line next) log answer
  | ask {request next reply log answer} : Trace (next reply) log answer →
      Trace (.ask request next) ((request, reply) :: log) answer

/-! ### Traces of composed sessions -/

theorem trace_done_iff {a answer : α} {log : Log} :
    Trace (.done a) log answer ↔ log = [] ∧ answer = a := by
  constructor
  · rintro ⟨⟩
    exact ⟨rfl, rfl⟩
  · rintro ⟨rfl, rfl⟩
    exact .done

theorem trace_print_iff {line : Output} {s : Session α} {log : Log} {answer : α} :
    Trace (.print line s) log answer ↔ Trace s log answer := by
  constructor
  · rintro (_ | h)
    exact h
  · exact .print

theorem trace_send_iff {request : Request} {log : Log} {reply : Reply} :
    Trace (send request) log reply ↔ log = [(request, reply)] := by
  constructor
  · rintro (_ | _ | h)
    obtain ⟨rfl, rfl⟩ := trace_done_iff.1 h
    rfl
  · rintro rfl
    exact .ask .done

/-- A session that goes on with another sends what the first one sends, and then the other. -/
theorem trace_bind_iff {s : Session α} {f : α → Session β} {log : Log} {answer : β} :
    Trace (s.bind f) log answer ↔
      ∃ before a after, Trace s before a ∧ Trace (f a) after answer ∧ log = before ++ after := by
  induction s generalizing log with
  | done a =>
    constructor
    · exact fun h => ⟨[], a, log, .done, h, rfl⟩
    · rintro ⟨before, b, after, hs, h, rfl⟩
      obtain ⟨rfl, rfl⟩ := trace_done_iff.1 hs
      exact h
  | print line next ih =>
    show Trace (.print line (next.bind f)) log answer ↔ _
    rw [trace_print_iff, ih]
    simp only [trace_print_iff]
  | ask request next ih =>
    constructor
    · rintro (_ | _ | h)
      obtain ⟨before, a, after, hs, hf, rfl⟩ := (ih _).1 h
      exact ⟨_, a, after, .ask hs, hf, rfl⟩
    · rintro ⟨_, a, after, (_ | _ | hs), h, rfl⟩
      exact .ask ((ih _).2 ⟨_, a, after, hs, h, rfl⟩)

/-- A session in two parts ends with the error of the first, or sends what both send. -/
theorem trace_andThen_iff {s : Session (Except ε α)} {f : α → Session (Except ε β)} {log : Log}
    {answer : Except ε β} : Trace (s.andThen f) log answer ↔
      (∃ e, Trace s log (.error e) ∧ answer = .error e) ∨
      ∃ before a after, Trace s before (.ok a) ∧ Trace (f a) after answer ∧
        log = before ++ after := by
  rw [andThen, trace_bind_iff]
  constructor
  · rintro ⟨before, a, after, hs, h, rfl⟩
    cases a with
    | error e =>
      obtain ⟨rfl, rfl⟩ := trace_done_iff.1 h
      exact .inl ⟨e, by rwa [List.append_nil], rfl⟩
    | ok a => exact .inr ⟨before, a, after, hs, h, rfl⟩
  · rintro (⟨e, hs, rfl⟩ | ⟨before, a, after, hs, h, rfl⟩)
    · exact ⟨log, .error e, [], hs, .done, (List.append_nil log).symm⟩
    · exact ⟨before, .ok a, after, hs, h, rfl⟩

theorem trace_sayAll_iff {lines : List Output} {log : Log} :
    Trace (sayAll lines) log () ↔ log = [] := by
  induction lines with
  | nil => simp [sayAll, trace_done_iff]
  | cons line lines ih => rw [sayAll, trace_print_iff, ih]

/-! ### Traces of plays -/

/-- A session that goes on with another plays the first one, and then the other. -/
theorem play_bind (reply : σ → Request → Reply × σ) (server : σ) (s : Session α)
    (f : α → Session β) :
    let first := play reply server s
    let second := play reply first.server (f first.answer)
    play reply server (s.bind f) = { second with lines := first.lines ++ second.lines } := by
  induction s generalizing server with
  | done answer => rfl
  | print line next ih =>
    exact congrArg (fun played : Played σ β => { played with lines := line :: played.lines })
      (ih server)
  | ask request next ih => exact ih _ _

theorem play_sayAll (reply : σ → Request → Reply × σ) (server : σ)
    (lines : List Output) : play reply server (sayAll lines) = ⟨(), lines, server⟩ := by
  induction lines with
  | nil => rfl
  | cons line lines ih =>
    rw [sayAll, play, ih]

section

variable {reply : σ → Request → Reply × σ} {server : σ} {s : Session (Except ε α)}
  {f : α → Session (Except ε β)}

/-- The second part of a session is played against the server that the first has left. -/
theorem play_andThen_of_ok {a : α} (h : (play reply server s).answer = .ok a) :
    (play reply server (s.andThen f)).answer =
        (play reply (play reply server s).server (f a)).answer ∧
      (play reply server (s.andThen f)).server =
        (play reply (play reply server s).server (f a)).server := by
  rw [andThen, play_bind, h]
  exact ⟨rfl, rfl⟩

theorem play_andThen_of_error {e : ε} (h : (play reply server s).answer = .error e) :
    (play reply server (s.andThen f)).answer = .error e ∧
      (play reply server (s.andThen f)).server = (play reply server s).server := by
  rw [andThen, play_bind, h]
  exact ⟨rfl, rfl⟩

end

/-- A server that notes what it is asked, and what it replies. -/
def noting (reply : σ → Request → Reply × σ) (server : σ × Log) (request : Request) :
    Reply × (σ × Log) :=
  let (r, next) := reply server.1 request
  (r, next, server.2 ++ [(request, r)])

/-- **Every play is a trace**, with the replies of its server. -/
theorem trace_play (reply : σ → Request → Reply × σ) (server : σ) (log : Log) (s : Session α) :
    ∃ added, (play (noting reply) (server, log) s).server.2 = log ++ added ∧
      Trace s added (play (noting reply) (server, log) s).answer ∧
      ∀ x ∈ added, ∃ state, (reply state x.1).1 = x.2 := by
  induction s generalizing server log with
  | done answer => exact ⟨[], (List.append_nil log).symm, .done, by simp⟩
  | print line next ih =>
    obtain ⟨added, hlog, htrace, hreplies⟩ := ih server log
    exact ⟨added, hlog, .print htrace, hreplies⟩
  | ask request next ih =>
    obtain ⟨added, hlog, htrace, hreplies⟩ := ih (reply server request).1 (reply server request).2
      (log ++ [(request, (reply server request).1)])
    refine ⟨(request, (reply server request).1) :: added, ?_, .ask htrace,
      List.forall_mem_cons.2 ⟨⟨server, rfl⟩, hreplies⟩⟩
    rw [List.append_cons]
    exact hlog

/-- What a session sends behind one that succeeds. -/
theorem trace_play_andThen {reply : σ → Request → Reply × σ} {server : σ × Log}
    {s : Session (Except ε α)} {a : α} (f : α → Session (Except ε β))
    (h : (play (noting reply) server s).answer = .ok a) :
    ∃ added, (play (noting reply) server (s.andThen f)).server.2 =
        (play (noting reply) server s).server.2 ++ added ∧
      Trace (f a) added (play (noting reply) server (s.andThen f)).answer := by
  obtain ⟨hanswer, hserver⟩ := play_andThen_of_ok (f := f) h
  rw [hanswer, hserver]
  obtain ⟨added, hadded, htrace, -⟩ := trace_play reply (play (noting reply) server s).server.1
    (play (noting reply) server s).server.2 (f a)
  exact ⟨added, hadded, htrace⟩

end Courier.Http.Session
