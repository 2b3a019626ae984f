import ReadNotify.Proofs.Streams.Connecting

/-!
# What One Move Does to a Stream

The bytes under way to a socket are those in its inbox. A move that writes adds
behind them, a move that reads or begins a dispatch takes from their front, and
every other move leaves them alone unless it closes the socket. In one equation,
for a socket `e` that is open afterwards and its peer `p`: what was in the inbox
of `e`, followed by what was written on `p`, is what was read from `e`, followed
by what is in its inbox now.

For the equation to compose along moves it is stated for sockets that do not
exist yet as well, where all of its parts are empty. `Kernel.Facing` is both
cases together, and holds backwards: sockets that face each other now did at any
time before.

## Main definitions

* `Move.puts`, `Move.gets`: What a move writes and reads, and for whom.
* `Kernel.Facing`: Two ends of a connection, perhaps of one still to come.

## Theorems

* `follows_perform`: Every move keeps sockets and connections in order.
* `facing_of_follows`: Sockets faced each other before.
* `inbox_perform`: The equation.
-/

namespace ReadNotify

/-- What a move writes, and on which connection, if it succeeds. -/
def Move.puts (m : Move) (s : System) : Option (ConnKey × Bytes) :=
  match m with
  | .write c data =>
    match (s.write c data).2 with
    | .ok () => some (c, data)
    | .error _ => none
  | _ => none

/-- What a move reads, and from which connection. Beginning to dispatch reads
    for the callback. -/
def Move.gets (m : Move) (s : System) : Option (ConnKey × Bytes) :=
  match m with
  | .receive c n => some (c, (s.receive c n).2)
  | .begin c size => (s.begin c size).2.map fun x => (c, x.2)
  | _ => none

/-- The bytes of a transfer, if it is one of those asked for. -/
def portion (p : ConnKey → Bool) (transfer : Option (ConnKey × Bytes)) : Bytes :=
  match transfer with
  | some (c, data) => if p c = true then data else []
  | none => []

theorem portion_some (p : ConnKey → Bool) (c : ConnKey) (data : Bytes) :
    portion p (some (c, data)) = if p c = true then data else [] := rfl

theorem portion_congr {p p' : ConnKey → Bool} {transfer : Option (ConnKey × Bytes)}
    (h : ∀ c data, transfer = some (c, data) → data ≠ [] → p c = p' c) :
    portion p transfer = portion p' transfer := by
  rcases transfer with _ | ⟨c, data⟩
  · rfl
  · rw [portion_some, portion_some]
    by_cases hdata : data = []
    · rw [hdata, ite_self, ite_self]
    · rw [h c data rfl hdata]

theorem portion_of_none {p : ConnKey → Bool} (h : ∀ c, p c = false)
    (transfer : Option (ConnKey × Bytes)) : portion p transfer = [] := by
  rcases transfer with _ | ⟨c, data⟩
  · rfl
  · rw [portion_some, h c, if_neg Bool.false_ne_true]

/-- Two sockets are connected and the second is open, or neither exists yet. -/
def Kernel.Facing (k : Kernel) (p e : SocketKey) : Prop :=
  (k.isOpen e = true ∧ k.peer? e = some p) ∨ (k.socket? e = none ∧ k.socket? p = none)

/-- Nothing is queued at an open socket that was never connected. -/
def Kernel.Fed (k : Kernel) : Prop :=
  ∀ q, k.isOpen q = true → k.peer? q = none → k.inbox q = []

theorem Kernel.inbox_of_none {k : Kernel} {q : SocketKey} (h : k.socket? q = none) :
    k.inbox q = [] := by
  rw [inbox, h]

namespace System

variable {s t : System} {p e : SocketKey}

/-- Whether a connection has some socket. -/
def holds (s : System) (q : SocketKey) (c : ConnKey) : Bool := decide (s.socket? c = some q)

/-- Nobody has a socket that does not exist yet. -/
theorem holds_of_none (h : s.Wired) (he : s.kernel.socket? e = none) (c : ConnKey) :
    s.holds e c = false := by
  refine decide_eq_false fun hc => ?_
  have hknown := h.known hc
  rw [he] at hknown
  exact Bool.false_ne_true hknown

/-- Sockets that face each other did so before. -/
theorem facing_of_follows (hs : s.Wired) (ht : t.Wired) (h : Follows s t)
    (hfacing : t.kernel.Facing p e) : s.kernel.Facing p e := by
  rcases hfacing with ⟨hopen, hpeer⟩ | ⟨he, hp⟩
  · rcases h.isOpen e hopen with hbefore | hnew
    · exact Or.inl ⟨hbefore, (h.peer e (Kernel.known_of_isOpen hbefore)).symm.trans hpeer⟩
    · -- The two ends of a connection come into being together.
      refine Or.inr ⟨hnew, Option.not_isSome_iff_eq_none.mp fun hsome => ?_⟩
      have hback := ht.kernel.paired e p hpeer
      rw [h.peer p hsome] at hback
      have hthere := hs.kernel.paired p e hback
      rw [Kernel.peer?, hnew] at hthere
      exact absurd hthere (by simp only [Option.bind_none, reduceCtorEq, not_false_eq_true])
  · exact Or.inr ⟨h.socket_none he, h.socket_none hp⟩

/-! ### Reading -/

theorem receive_of_none {c : ConnKey} (h : s.socket? c = none) (n : Nat) :
    s.receive c n = (s, []) := by
  rw [receive, h]

/-- Reading is receiving at the socket, but an error reads as nothing. -/
theorem receive_of_some {c : ConnKey} (h : s.socket? c = some e) (n : Nat) :
    Steady s (s.receive c n).1 ∧
      (s.receive c n).1.kernel = (s.kernel.receive e n).1 ∧
      (s.receive c n).2 = (s.kernel.receive e n).2.data := by
  have halike := Kernel.alike_receive s.kernel e n
  rw [receive, h]
  dsimp only
  -- The answer to an error is empty, and the connection remembers it.
  rcases hreceive : s.kernel.receive e n with ⟨k, data | code⟩ <;> rw [hreceive] at halike
  · exact ⟨steady_kernel halike, rfl, rfl⟩
  · exact ⟨steady_trans (steady_kernel halike) (still_record c (.os code) _).steady, rfl, rfl⟩

theorem steady_receive (c : ConnKey) (n : Nat) (s : System) : Steady s (s.receive c n).1 := by
  rcases hc : s.socket? c with _ | q
  · rw [receive_of_none hc]
    exact (still_of_connections rfl rfl).steady
  · exact (receive_of_some hc n).1

/-- What is read was in front of the inbox. -/
theorem inbox_receive (c : ConnKey) (n : Nat) (s : System) (e : SocketKey) :
    s.kernel.inbox e =
      portion (s.holds e) (some (c, (s.receive c n).2)) ++ (s.receive c n).1.kernel.inbox e := by
  rw [portion_some]
  simp only [holds, decide_eq_true_eq]
  rcases hc : s.socket? c with _ | q
  · rw [receive_of_none hc, ite_self, List.nil_append]
  · rcases receive_of_some hc n with ⟨-, hkernel, hdata⟩
    rw [hkernel, hdata, Kernel.inbox_receive s.kernel q n e]
    -- Other sockets keep what they have, and other connections read nothing of it.
    by_cases he : e = q
    · rw [if_pos he, he, if_pos rfl]
    · rw [if_neg he, if_neg fun h => he (Option.some.inj h).symm]

theorem steady_begin (c : ConnKey) (size : Nat) (s : System) : Steady s (s.begin c size).1 := by
  rcases begin_cases c size s with ⟨-, heq⟩ | ⟨x, -, -, -, -, record, heq⟩
  · rw [heq]
    exact (still_of_connections rfl rfl).steady
  · rw [heq]
    exact steady_trans (steady_trans (still_takenOut x s).steady (steady_receive c size _))
      (still_note record _).steady

/-- So is what a dispatch hands to the callback. -/
theorem inbox_begin (c : ConnKey) (size : Nat) (s : System) (e : SocketKey) :
    s.kernel.inbox e = portion (s.holds e) ((s.begin c size).2.map fun x => (c, x.2)) ++
      (s.begin c size).1.kernel.inbox e := by
  rcases begin_cases c size s with ⟨-, heq⟩ | ⟨x, -, -, -, hanswer, record, heq⟩
  · rw [heq]
    rfl
  · -- Taking the callback out moves no byte; then it is a read.
    have htaken := still_takenOut x s
    have hholds : s.holds e = (s.takenOut x).holds e := by
      funext d
      rw [holds, holds, htaken.steady.socket]
    rw [hanswer, heq, Option.map_some, ← htaken.inbox e, hholds]
    exact inbox_receive c size (s.takenOut x) e

/-! ### Writing -/

/-- A write leaves the streams alone, and is refused unless it was of nothing,
    or it is one call to send that takes the whole payload. -/
theorem write_cases (h : s.Wired) (c : ConnKey) (data : Bytes) :
    (Still s (s.write c data).1 ∧ ((s.write c data).2 = .ok () → data = [])) ∨
    ∃ q r, s.socket? c = some q ∧ s.kernel.peer? q = some r ∧ (s.write c data).2 = .ok () ∧
      Steady s (s.write c data).1 ∧
      ∀ e, (s.write c data).1.kernel.inbox e =
        s.kernel.inbox e ++ if e = r ∧ s.kernel.isOpen r = true then data else [] := by
  unfold write
  rcases hc : s.socket? c with _ | q
  · exact Or.inl ⟨still_of_connections rfl rfl,
      fun h => absurd h (by simp only [reduceCtorEq, not_false_eq_true])⟩
  · dsimp only
    by_cases hdata : data = []
    · rw [if_pos hdata]
      exact Or.inl ⟨still_of_connections rfl rfl, fun _ => hdata⟩
    · rw [if_neg hdata]
      rcases Kernel.sends_send h.kernel q data with ⟨halike, hreply⟩
      rcases List.exists_cons_of_ne_nil hdata with ⟨b, rest, rfl⟩
      rcases hsend : s.kernel.send q (b :: rest) with ⟨k, reply⟩
      rw [hsend] at halike hreply
      rcases hreply with ⟨code, rfl, hcode, hinbox⟩ | ⟨r, hpeer, rfl, hinbox⟩
      · -- Only after a signal would the write try again.
        have hended : (sendAll [.failed code] (b :: rest)).2 = .failed (.os code) := by
          rw [sendAll, if_neg hcode]
        have hkernel : Still s { s with kernel := k } := ⟨steady_kernel halike, hinbox⟩
        dsimp only
        rw [hended]
        exact Or.inl ⟨still_trans hkernel (still_record c (.os code) _),
          fun h => absurd h (by simp only [endWrite, reduceCtorEq, not_false_eq_true])⟩
      · -- The kernel takes all of the payload at once, so one call is enough.
        have hended : (sendAll [.taken (b :: rest).length] (b :: rest)).2 = .finished := by
          rw [List.length_cons, sendAll, List.drop_succ_cons, List.drop_length]
          rfl
        dsimp only
        rw [hended]
        exact Or.inr ⟨q, r, rfl, hpeer, rfl, steady_kernel halike, hinbox⟩

theorem steady_write (h : s.Wired) (c : ConnKey) (data : Bytes) :
    Steady s (s.write c data).1 := by
  rcases write_cases h c data with ⟨hstill, -⟩ | ⟨-, -, -, -, -, hsteady, -⟩
  · exact hstill.steady
  · exact hsteady

theorem puts_write (c : ConnKey) (data : Bytes) (s : System) :
    (Move.write c data).puts s =
      if (s.write c data).2 = .ok () then some (c, data) else none := by
  unfold Move.puts
  dsimp only
  rcases (s.write c data).2 with e | _
  · rfl
  · rfl

/-- What is written on one socket goes behind the inbox of the other. -/
theorem inbox_write (h : s.Wired) (c : ConnKey) (data : Bytes)
    (hopen : s.kernel.isOpen e = true) (hpeer : s.kernel.peer? e = some p) :
    (s.write c data).1.kernel.inbox e =
      s.kernel.inbox e ++ portion (s.holds p) ((Move.write c data).puts s) := by
  rw [puts_write]
  rcases write_cases h c data with ⟨hstill, hnone⟩ | ⟨q, r, hc, hqr, hok, -, hinbox⟩
  · -- Refused, or of nothing.
    rw [hstill.inbox]
    by_cases hok : (s.write c data).2 = .ok ()
    · rw [if_pos hok, hnone hok, portion_some, ite_self, List.append_nil]
    · rw [if_neg hok]
      exact (List.append_nil _).symm
  · rw [hinbox, if_pos hok, portion_some]
    simp only [holds, decide_eq_true_eq, hc]
    by_cases hqp : q = p
    · -- The socket at the other end of `p` is `e` and no other.
      have hre : e = r := by
        have hback := h.kernel.paired e p hpeer
        rw [← hqp, hqr] at hback
        exact (Option.some.inj hback).symm
      rw [hqp, if_pos rfl, if_pos ⟨hre, hre ▸ hopen⟩]
    · -- Written on another socket, so the end that it reaches is another one.
      rw [if_neg fun heq => hqp (Option.some.inj heq), if_neg]
      rintro ⟨her, -⟩
      have hback := h.kernel.paired q r hqr
      rw [← her, hpeer] at hback
      exact hqp (Option.some.inj hback).symm

/-! ### All moves -/

theorem steady_transfers (h : s.Wired) {m : Move} (hm : m.transfers = true) :
    Steady s (m.perform s) := by
  cases m with
  | write c data => exact steady_write h c data
  | receive c n => exact steady_receive c n s
  | begin c size => exact steady_begin c size s
  | _ => exact absurd hm Bool.false_ne_true

/-- Every move keeps sockets and connections in order. -/
theorem follows_perform (h : s.Wired) (m : Move) :
    (m.perform s).Wired ∧ Follows s (m.perform s) := by
  cases hm : m.transfers with
  | true =>
      have hsteady := steady_transfers h hm
      exact ⟨wired_steady h hsteady, follows_steady hsteady⟩
  | false =>
      rcases carries_perform h hm with ⟨hwired, hcarries⟩
      exact ⟨hwired, hcarries.follows⟩

theorem wired_run (r : Nat) (ms : List Move) : (run ms (init r)).Wired :=
  run_preserves (fun m _ _ h => (follows_perform h m).1) (wired_init r)

/-- What was queued, followed by what a move that moves bytes writes, is what it
    reads, followed by what is queued. -/
theorem inbox_transfers (h : s.Wired) {m : Move} (hm : m.transfers = true)
    (hopen : s.kernel.isOpen e = true) (hpeer : s.kernel.peer? e = some p) :
    s.kernel.inbox e ++ portion (s.holds p) (m.puts s) =
      portion (s.holds e) (m.gets s) ++ (m.perform s).kernel.inbox e := by
  cases m with
  | write c data => exact (inbox_write h c data hopen hpeer).symm
  | receive c n => exact (List.append_nil _).trans (inbox_receive c n s e)
  | begin c size => exact (List.append_nil _).trans (inbox_begin c size s e)
  | _ => exact absurd hm Bool.false_ne_true

theorem idle_of_not_transfers {m : Move} (hm : m.transfers = false) (s : System) :
    m.puts s = none ∧ m.gets s = none := by
  cases m with
  | write c data => exact absurd hm.symm Bool.false_ne_true
  | receive c n => exact absurd hm.symm Bool.false_ne_true
  | begin c size => exact absurd hm.symm Bool.false_ne_true
  | _ => exact ⟨rfl, rfl⟩

/-- A socket that is new has nothing in its inbox. -/
theorem inbox_perform_of_none (h : s.Wired) (m : Move) (he : s.kernel.socket? e = none)
    (hopen : (m.perform s).kernel.isOpen e = true) : (m.perform s).kernel.inbox e = [] := by
  have hclosed : s.kernel.isOpen e = false := by rw [Kernel.isOpen, he]
  cases hm : m.transfers with
  | true =>
      have hsame := (steady_transfers h hm).alike.isOpen e
      exact absurd (hclosed.symm.trans (hsame.symm.trans hopen)) Bool.false_ne_true
  | false =>
      rcases (carries_perform h hm).2.inbox e hopen with ⟨hbefore, -⟩ | ⟨-, hempty⟩
      · exact absurd (hclosed.symm.trans hbefore) Bool.false_ne_true
      · exact hempty

/-- What was queued, followed by what a move writes, is what it reads, followed
    by what is queued. -/
theorem inbox_perform (h : s.Wired) (m : Move) (hfacing : (m.perform s).kernel.Facing p e) :
    s.kernel.inbox e ++ portion (s.holds p) (m.puts s) =
      portion (s.holds e) (m.gets s) ++ (m.perform s).kernel.inbox e := by
  rcases follows_perform h m with ⟨hwired, hfollows⟩
  rcases facing_of_follows h hwired hfollows hfacing with ⟨hopen, hpeer⟩ | ⟨he, hp⟩
  · cases hm : m.transfers with
    | true => exact inbox_transfers h hm hopen hpeer
    | false =>
        rcases idle_of_not_transfers hm s with ⟨hputs, hgets⟩
        rw [hputs, hgets]
        refine (List.append_nil _).trans ?_
        rcases hfacing with ⟨hstays, -⟩ | ⟨hnone, -⟩
        · rcases (carries_perform h hm).2.inbox e hstays with ⟨-, hsame⟩ | ⟨hnew, -⟩
          · exact hsame.symm
          · exact absurd (Kernel.known_of_isOpen hopen) (by
              rw [hnew]
              exact Bool.false_ne_true)
        · -- A socket that is there does not vanish.
          have hknown := Kernel.known_of_isOpen hopen
          rw [hfollows.socket_none hnone] at hknown
          exact absurd hknown Bool.false_ne_true
  · -- Nobody can write to a connection or read from it before it exists.
    rw [Kernel.inbox_of_none he, portion_of_none (holds_of_none h he),
      portion_of_none (holds_of_none h hp)]
    refine Eq.symm ((List.nil_append _).trans ?_)
    rcases hfacing with ⟨hopen, -⟩ | ⟨hnone, -⟩
    · exact inbox_perform_of_none h m he hopen
    · exact Kernel.inbox_of_none hnone

/-! ### Who is written to -/

/-- Bytes come from the other end, so a socket without one has nothing queued. -/
theorem fed_perform (h : s.Wired) (hfed : s.kernel.Fed) (m : Move) :
    (m.perform s).kernel.Fed := by
  intro q hopen hlone
  have hfollows := (follows_perform h m).2
  rcases hfollows.isOpen q hopen with hbefore | hnew
  · have hlone' : s.kernel.peer? q = none :=
      (hfollows.peer q (Kernel.known_of_isOpen hbefore)).symm.trans hlone
    have hempty := hfed q hbefore hlone'
    cases hm : m.transfers with
    | false =>
        rcases (carries_perform h hm).2.inbox q hopen with ⟨-, hsame⟩ | ⟨-, hnothing⟩
        · exact hsame.trans hempty
        · exact hnothing
    | true =>
        cases m with
        | write c data =>
            rcases write_cases h c data with ⟨hstill, -⟩ | ⟨e, r, -, hpeer, -, -, hinbox⟩
            · exact (hstill.inbox q).trans hempty
            · -- Whoever is reached has the writing socket as its other end.
              have hne : q ≠ r := by
                rintro rfl
                rw [h.kernel.paired e q hpeer] at hlone'
                exact absurd hlone' (by simp)
              exact (hinbox q).trans (by rw [if_neg fun heq => hne heq.1, hempty, List.nil_append])
        | receive c n =>
            have hread := inbox_receive c n s q
            rw [hempty] at hread
            exact (List.append_eq_nil_iff.mp hread.symm).2
        | begin c size =>
            have hread := inbox_begin c size s q
            rw [hempty] at hread
            exact (List.append_eq_nil_iff.mp hread.symm).2
        | _ => exact absurd hm Bool.false_ne_true
  · exact inbox_perform_of_none h m hnew hopen

end System

end ReadNotify
