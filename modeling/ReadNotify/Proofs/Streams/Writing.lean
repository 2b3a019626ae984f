import ReadNotify.Proofs.Streams.Traffic

/-!
# A Write Is All or an Error

A socket may take a payload piece by piece, and signals may cut calls short in
between. Whatever it answers, what it took in the end is a prefix of the payload:
every call is handed what the calls before it left. A write ends well when that
prefix is the payload, and badly at the first failure that is not a signal's.
Until then it waits for another answer.

The kernel of this model takes a payload at once or not at all. A write for which
the socket answers otherwise is `writeVia`, with the answers given beforehand, and
a write to the kernel is one of these.

## Main definitions

* `Fair`: Answers a socket can give.
* `Unharmed`: Nothing failed but for a signal.
* `Hears`, `Decides`: The answers a write comes to hear, and how it ends by them.
* `System.writeVia`: A write to a socket that gives these answers.
* `System.Concludes`: What a write leaves by the answers it heard.
* `System.AnsweredBy`: A write to the kernel, with the answers that the kernel gave.

## Theorems

* `exists_hears`: The socket took a prefix, as the answers heard decide.
* `sendAll_append`: A write that has ended makes no further call.
* `exists_answeredBy`: The kernel answers as a socket can.
* `write_all_or_error`: A write is all, or an error and a prefix.
-/

namespace ReadNotify

/-- Answers that a socket can give to the calls of a write of which so many bytes
    are left. A call that takes anything takes no more than it was handed. -/
def Fair : Nat → List SendReply → Prop
  | _, [] => True
  | left, .taken n :: replies => 0 < n ∧ n ≤ left ∧ Fair (left - n) replies
  | left, .failed _ :: replies => Fair left replies

/-- The bytes that these answers took. -/
def accepted : List SendReply → Nat
  | [] => 0
  | .taken n :: replies => n + accepted replies
  | .failed _ :: replies => accepted replies

/-- No call failed but for a signal. -/
def Unharmed (replies : List SendReply) : Prop :=
  ∀ code, .failed code ∈ replies → code = IoError.callInterrupted

/-- How the answers that were heard decide a write. -/
inductive Decides (data : Bytes) : List SendReply → WriteEnd → Prop
  | finished {heard : List SendReply} (calm : Unharmed heard)
      (all : accepted heard = data.length) : Decides data heard .finished
  /-- The last answer is the first failure that is not a signal's. -/
  | failed (heard : List SendReply) {code : Int} (calm : Unharmed heard)
      (part : accepted heard < data.length) (hard : code ≠ IoError.callInterrupted) :
      Decides data (heard ++ [.failed code]) (.failed (.os code))
  | waiting {heard : List SendReply} (calm : Unharmed heard)
      (part : accepted heard < data.length) : Decides data heard .waiting

theorem unharmed_nil : Unharmed [] := fun _ h => absurd h List.not_mem_nil

/-- An answer that takes something is no failure. -/
theorem unharmed_taken {heard : List SendReply} (h : Unharmed heard) (n : Nat) :
    Unharmed (.taken n :: heard) := by
  intro code hcode
  rcases List.mem_cons.mp hcode with heq | hmem
  · exact absurd heq (by simp only [reduceCtorEq, not_false_eq_true])
  · exact h code hmem

/-- A signal's failure harms nothing. -/
theorem unharmed_interrupted {heard : List SendReply} (h : Unharmed heard) :
    Unharmed (.failed IoError.callInterrupted :: heard) := by
  intro code hcode
  rcases List.mem_cons.mp hcode with heq | hmem
  · exact SendReply.failed.inj heq
  · exact h code hmem

variable {data : Bytes} {heard : List SendReply} {ending : WriteEnd} {n : Nat}

/-- An answer that takes something goes before the answers to what is left. -/
theorem decides_taken (hn : n ≤ data.length) (h : Decides (data.drop n) heard ending) :
    Decides data (.taken n :: heard) ending := by
  have hlength : (data.drop n).length = data.length - n := List.length_drop
  -- What is left and what was taken make up the payload in each case.
  cases h with
  | finished calm all =>
      refine .finished (unharmed_taken calm n) ?_
      rw [accepted, all, hlength]
      omega
  | failed _ calm part hard =>
      refine .failed (.taken n :: _) (unharmed_taken calm n) ?_ hard
      rw [accepted]
      omega
  | waiting calm part =>
      refine .waiting (unharmed_taken calm n) ?_
      rw [accepted]
      omega

/-- After a signal the write is where it was. -/
theorem decides_interrupted (h : Decides data heard ending) :
    Decides data (.failed IoError.callInterrupted :: heard) ending := by
  cases h with
  | finished calm all => exact .finished (unharmed_interrupted calm) all
  | failed _ calm part hard =>
      exact .failed (.failed IoError.callInterrupted :: _)
        (unharmed_interrupted calm) part hard
  | waiting calm part => exact .waiting (unharmed_interrupted calm) part

/-- A failure takes no bytes. -/
theorem accepted_concat_failed (heard : List SendReply) (code : Int) :
    accepted (heard ++ [.failed code]) = accepted heard := by
  induction heard with
  | nil => rfl
  | cons reply heard ih =>
      cases reply with
      | taken n => exact congrArg (n + ·) ih
      | failed _ => exact ih

/-- No answers take more than the whole payload. -/
theorem accepted_le (h : Decides data heard ending) : accepted heard ≤ data.length := by
  cases h with
  | finished calm all => exact all.le
  -- The failure at the end adds nothing to the prefix.
  | failed _ calm part hard => exact (accepted_concat_failed _ _).symm ▸ part.le
  | waiting calm part => exact part.le

/-- A write of nothing is finished without a call. -/
theorem sendAll_nil (replies : List SendReply) : sendAll replies [] = ([], .finished) := by
  rw [sendAll]

/-- A call that takes something leaves the rest to the calls after it. -/
theorem sendAll_taken (hn : 0 < n) (hdata : n ≤ data.length) (replies : List SendReply) :
    sendAll (.taken n :: replies) data =
      (data.take n ++ (sendAll replies (data.drop n)).1, (sendAll replies (data.drop n)).2) := by
  rcases Nat.exists_eq_add_one_of_ne_zero hn.ne' with ⟨m, rfl⟩
  rcases data with _ | ⟨b, rest⟩
  · -- There is no payload to take anything from.
    exact absurd hdata (Nat.not_succ_le_zero m)
  · rw [sendAll]

/-- A call cut short by a signal is made again with the same bytes. -/
theorem sendAll_interrupted (hdata : data ≠ []) (replies : List SendReply) :
    sendAll (.failed IoError.callInterrupted :: replies) data = sendAll replies data := by
  rcases List.exists_cons_of_ne_nil hdata with ⟨b, rest, rfl⟩
  rw [sendAll, if_pos rfl]

/-- A failure that is not a signal's ends the write, with nothing sent from there on. -/
theorem sendAll_failed {code : Int} (hcode : code ≠ IoError.callInterrupted) (hdata : data ≠ [])
    (replies : List SendReply) :
    sendAll (.failed code :: replies) data = ([], .failed (.os code)) := by
  rcases List.exists_cons_of_ne_nil hdata with ⟨b, rest, rfl⟩
  rw [sendAll, if_neg hcode]

/-- The answers that a write comes to hear, out of all that the socket would give:
    each was waited for, they alone settle what was sent and how the write ended,
    and they are all there are if it still waits. -/
structure Hears (replies : List SendReply) (data : Bytes) (heard : List SendReply) : Prop where
  front : heard <+: replies
  asked : ∀ before reply, before ++ [reply] <+: heard → (sendAll before data).2 = .waiting
  sent : (sendAll replies data).1 = data.take (accepted heard)
  decides : Decides data heard (sendAll replies data).2
  enough : sendAll heard data = sendAll replies data
  exhausted : (sendAll replies data).2 = .waiting → heard = replies

theorem not_concat_prefix_nil (before : List SendReply) (reply : SendReply) :
    ¬ before ++ [reply] <+: [] := by
  rw [List.prefix_nil]
  exact List.append_ne_nil_of_right_ne_nil before (List.cons_ne_nil _ _)

/-- The first answer was waited for if there was anything to send. -/
theorem asked_cons {reply : SendReply} (hdata : data ≠ [])
    (h : ∀ before last, before ++ [last] <+: heard →
      (sendAll (reply :: before) data).2 = .waiting) :
    ∀ before last, before ++ [last] <+: reply :: heard → (sendAll before data).2 = .waiting := by
  intro before last hprefix
  -- Before any answer the write waits because it has bytes left.
  rcases before with _ | ⟨first, before⟩
  · rcases List.exists_cons_of_ne_nil hdata with ⟨b, rest, rfl⟩
    rfl
  · rcases List.cons_prefix_cons.mp hprefix with ⟨rfl, htail⟩
    exact h before last htail

theorem hears_nil (replies : List SendReply) : Hears replies [] [] where
  front := List.nil_prefix
  asked := fun before reply h => absurd h (not_concat_prefix_nil before reply)
  sent := by rw [sendAll_nil, List.take_nil]
  decides := by
    rw [sendAll_nil]
    exact .finished unharmed_nil rfl
  enough := by rw [sendAll_nil, sendAll_nil]
  exhausted := fun h => absurd h (by
    rw [sendAll_nil]
    simp only [reduceCtorEq, not_false_eq_true])

/-- What is heard for the rest is heard after the answer that left it. -/
theorem hears_taken {replies : List SendReply} (hn : 0 < n) (hle : n ≤ data.length)
    (h : Hears replies (data.drop n) heard) :
    Hears (.taken n :: replies) data (.taken n :: heard) where
  front := List.cons_prefix_cons.mpr ⟨rfl, h.front⟩
  asked := by
    have hdata : data ≠ [] := List.ne_nil_of_length_pos (hn.trans_le hle)
    refine asked_cons hdata fun before last hprefix => ?_
    rw [sendAll_taken hn hle]
    exact h.asked before last hprefix
  sent := by rw [sendAll_taken hn hle, h.sent, accepted, List.take_add]
  decides := by
    rw [sendAll_taken hn hle]
    exact decides_taken hle h.decides
  enough := by rw [sendAll_taken hn hle, sendAll_taken hn hle, h.enough]
  exhausted := by
    rw [sendAll_taken hn hle]
    exact fun hwaiting => congrArg _ (h.exhausted hwaiting)

/-- What is heard is heard after a signal as well. -/
theorem hears_interrupted {replies : List SendReply} (hdata : data ≠ [])
    (h : Hears replies data heard) :
    Hears (.failed IoError.callInterrupted :: replies) data
      (.failed IoError.callInterrupted :: heard) where
  front := List.cons_prefix_cons.mpr ⟨rfl, h.front⟩
  asked := by
    refine asked_cons hdata fun before last hprefix => ?_
    rw [sendAll_interrupted hdata]
    exact h.asked before last hprefix
  sent := by rw [sendAll_interrupted hdata, h.sent, accepted]
  decides := by
    rw [sendAll_interrupted hdata]
    exact decides_interrupted h.decides
  enough := by rw [sendAll_interrupted hdata, sendAll_interrupted hdata, h.enough]
  exhausted := by
    rw [sendAll_interrupted hdata]
    exact fun hwaiting => congrArg _ (h.exhausted hwaiting)

/-- A failure is the last that is heard. -/
theorem hears_failed {code : Int} (hcode : code ≠ IoError.callInterrupted) (hdata : data ≠ [])
    (replies : List SendReply) : Hears (.failed code :: replies) data [.failed code] where
  front := List.cons_prefix_cons.mpr ⟨rfl, List.nil_prefix⟩
  asked := asked_cons hdata fun before last h => absurd h (not_concat_prefix_nil before last)
  sent := by
    rw [sendAll_failed hcode hdata]
    rfl
  decides := by
    rw [sendAll_failed hcode hdata]
    exact .failed [] unharmed_nil (List.length_pos_of_ne_nil hdata) hcode
  enough := by rw [sendAll_failed hcode hdata, sendAll_failed hcode hdata]
  exhausted := by
    rw [sendAll_failed hcode hdata]
    exact fun h => absurd h (by simp only [reduceCtorEq, not_false_eq_true])

/-- A write that no answer came to waits. -/
theorem hears_none (hdata : data ≠ []) : Hears [] data [] where
  front := List.nil_prefix
  asked := fun before reply h => absurd h (not_concat_prefix_nil before reply)
  sent := by
    rcases List.exists_cons_of_ne_nil hdata with ⟨b, rest, rfl⟩
    rfl
  decides := by
    rcases List.exists_cons_of_ne_nil hdata with ⟨b, rest, rfl⟩
    exact .waiting unharmed_nil (Nat.zero_lt_succ _)
  enough := rfl
  exhausted := fun _ => rfl

/-- Whatever a socket can answer, there are answers that the write hears. -/
theorem exists_hears (replies : List SendReply) :
    ∀ data, Fair data.length replies → ∃ heard, Hears replies data heard := by
  -- On the answers, for every payload: each call leaves another one to the rest.
  induction replies with
  | nil =>
      intro data _
      rcases data with _ | ⟨b, rest⟩
      · exact ⟨[], hears_nil []⟩
      · exact ⟨[], hears_none (List.cons_ne_nil b rest)⟩
  | cons reply replies ih =>
      intro data hfair
      by_cases hdata : data = []
      · -- Nothing is left, so no call is made.
        rw [hdata]
        exact ⟨[], hears_nil _⟩
      · cases reply with
        -- The rest of the answers is fair for what this call has left.
        | taken n =>
            rcases hfair with ⟨hn, hle, hfair⟩
            rw [← List.length_drop] at hfair
            rcases ih (data.drop n) hfair with ⟨heard, h⟩
            exact ⟨_, hears_taken hn hle h⟩
        | failed code =>
            by_cases hcode : code = IoError.callInterrupted
            · rcases ih data hfair with ⟨heard, h⟩
              rw [hcode]
              exact ⟨_, hears_interrupted hdata h⟩
            · exact ⟨_, hears_failed hcode hdata replies⟩

/-- A write that has ended makes no further call, whatever it would answer. -/
theorem sendAll_append (replies more : List SendReply) :
    ∀ data, (sendAll replies data).2 ≠ .waiting →
      sendAll (replies ++ more) data = sendAll replies data := by
  -- On the answers, along the calls.
  induction replies with
  | nil =>
      intro data hended
      rcases data with _ | ⟨b, rest⟩
      · rw [sendAll_nil, sendAll_nil]
      · exact absurd rfl hended
  | cons reply replies ih =>
      intro data hended
      by_cases hdata : data = []
      · rw [hdata, sendAll_nil, sendAll_nil]
      · rw [List.cons_append]
        rcases reply with n | code
        · -- An answer of zero bytes ends the write as well.
          rcases List.exists_cons_of_ne_nil hdata with ⟨b, rest, rfl⟩
          rcases n with _ | n
          · rw [sendAll, sendAll]
          · rw [sendAll] at hended
            rw [sendAll, sendAll, ih _ hended]
        · by_cases hcode : code = IoError.callInterrupted
          · rw [hcode, sendAll_interrupted hdata] at hended ⊢
            rw [sendAll_interrupted hdata, ih data hended]
          · rw [sendAll_failed hcode hdata, sendAll_failed hcode hdata]

namespace System

variable {s : System} {c : ConnKey} {q : SocketKey}

/-- What a write leaves: the state, the bytes the socket took, and the answer,
    unless the write still waits for the socket. -/
structure Written where
  state : System
  sent : Bytes
  result : Option (Except IoError Unit)

/-- The answer of a write, unless it still waits. -/
def settled (ending : WriteEnd) (answer : Except IoError Unit) : Option (Except IoError Unit) :=
  if ending = .waiting then none else some answer

theorem settled_eq_none {ending : WriteEnd} {answer : Except IoError Unit} :
    settled ending answer = none ↔ ending = .waiting := by
  rw [settled]
  by_cases h : ending = .waiting
  · rw [if_pos h]
    exact iff_of_true rfl h
  · rw [if_neg h]
    exact iff_of_false (Option.some_ne_none _) h

/-- Writes a payload to a connection whose socket gives these answers. -/
def writeVia (replies : List SendReply) (c : ConnKey) (data : Bytes) (s : System) : Written :=
  match s.socket? c with
  | none => ⟨s, [], some (.error (.plain .notConnected))⟩
  | some _ =>
    match sendAll replies data with
    | (sent, ending) =>
      match s.endWrite c ending with
      | (s, answer) => ⟨s, sent, settled ending answer⟩

/-- A write to an open connection sends what its answers let it, and is ended by them.
    -/
theorem writeVia_of_some (h : s.socket? c = some q) (replies : List SendReply) (data : Bytes) :
    s.writeVia replies c data =
      ⟨(s.endWrite c (sendAll replies data).2).1, (sendAll replies data).1,
        settled (sendAll replies data).2 (s.endWrite c (sendAll replies data).2).2⟩ := by
  rw [writeVia, h]

/-- What is recorded on an open connection is its last error. -/
theorem lastError_record (h : s.socket? c = some q) (e : IoError) :
    ((s.record c e).conn? c).bind Connection.lastError = some e.recorded := by
  rcases hc : s.conn? c with _ | conn
  · rw [socket?, hc] at h
    exact absurd h (by simp only [Option.bind_none, reduceCtorEq, not_false_eq_true])
  · rw [record, conn?_updateConn, if_pos rfl, hc]
    rfl

/-- The three ways a write can end that heard these answers: the payload is gone
    and nothing else changed, or the last answer is the first failure that is not
    a signal's, and is returned and remembered, or no answer is left. -/
inductive Concludes (s : System) (c : ConnKey) (data : Bytes) (replies : List SendReply) :
    List SendReply → System → Option (Except IoError Unit) → Prop
  | succeeded {heard : List SendReply} (calm : Unharmed heard)
      (all : accepted heard = data.length) : Concludes s c data replies heard s (some (.ok ()))
  | failed {heard : List SendReply} {code : Int} (calm : Unharmed heard)
      (part : accepted heard < data.length) (hard : code ≠ IoError.callInterrupted)
      (last : ((s.record c (.os code)).conn? c).bind Connection.lastError = some code) :
      Concludes s c data replies (heard ++ [.failed code]) (s.record c (.os code))
        (some (.error (.os code)))
  | waiting (calm : Unharmed replies) (part : accepted replies < data.length) :
      Concludes s c data replies replies s none

/-- A write succeeds exactly if the whole payload was taken. -/
theorem Concludes.result_eq_ok_iff {replies : List SendReply} {t : System}
    {result : Option (Except IoError Unit)} (h : s.Concludes c data replies heard t result) :
    result = some (.ok ()) ↔ accepted heard = data.length := by
  cases h with
  | succeeded calm all => exact iff_of_true rfl all
  | failed calm part hard last =>
      refine iff_of_false (fun heq => ?_) ?_
      · exact absurd (Option.some.inj heq) (by simp only [reduceCtorEq, not_false_eq_true])
      · rw [accepted_concat_failed]
        exact part.ne
  | waiting calm part => exact iff_of_false (Option.some_ne_none _).symm part.ne

/-- The answers that a write has heard are the answers it concludes by. -/
theorem concludes_writeVia (hopen : s.socket? c = some q) {replies : List SendReply}
    (h : Hears replies data heard) :
    s.Concludes c data replies heard (s.writeVia replies c data).state
      (s.writeVia replies c data).result := by
  have hdecides := h.decides
  have hexhausted := h.exhausted
  rw [writeVia_of_some hopen]
  dsimp only
  -- The ending is all that the result depends on.
  generalize (sendAll replies data).2 = ending at hdecides hexhausted
  cases hdecides with
  | finished calm all => exact .succeeded calm all
  | failed _ calm part hard => exact .failed calm part hard (lastError_record hopen _)
  | waiting calm part =>
      rcases hexhausted rfl with rfl
      exact .waiting calm part

/-- The write to the kernel is the write with these answers, after which the kernel
    is `k`, and what was sent went to the peer, if that is open. -/
structure AnsweredBy (s : System) (c : ConnKey) (q : SocketKey) (data : Bytes) (k : Kernel)
    (replies : List SendReply) : Prop where
  fair : Fair data.length replies
  state : (s.write c data).1 = (({ s with kernel := k } : System).writeVia replies c data).state
  result : some (s.write c data).2 =
    (({ s with kernel := k } : System).writeVia replies c data).result
  inbox : ∀ e, k.inbox e = s.kernel.inbox e ++
    if s.kernel.peer? q = some e ∧ s.kernel.isOpen e = true then
      (({ s with kernel := k } : System).writeVia replies c data).sent
    else []

/-- The kernel answers as a socket can, and never leaves a write waiting. -/
theorem exists_answeredBy (h : s.Wired) (hopen : s.socket? c = some q) (data : Bytes) :
    ∃ k replies, s.AnsweredBy c q data k replies := by
  by_cases hdata : data = []
  · -- Nothing is asked of the kernel.
    have hvia : s.writeVia [] c data = ⟨s, [], some (.ok ())⟩ := by
      rw [writeVia_of_some hopen, hdata]
      rfl
    have hwrite : s.write c data = (s, .ok ()) := by
      rw [write, hopen]
      exact if_pos hdata
    refine ⟨s.kernel, [], trivial, ?_, ?_, fun e => ?_⟩
    · exact (congrArg Prod.fst hwrite).trans (congrArg Written.state hvia).symm
    · rw [hwrite]
      exact (congrArg Written.result hvia).symm
    · rw [show ({ s with kernel := s.kernel } : System) = s from rfl, hvia, ite_self,
        List.append_nil]
  · rcases Kernel.sends_send h.kernel q data with ⟨-, hreply⟩
    rcases hsend : s.kernel.send q data with ⟨k, reply⟩
    rw [hsend] at hreply
    have hopen' : ({ s with kernel := k } : System).socket? c = some q := hopen
    have hwrite : s.write c data =
        ({ s with kernel := k } : System).endWrite c (sendAll [reply] data).2 := by
      rw [write, hopen]
      dsimp only
      rw [if_neg hdata, hsend]
    refine ⟨k, [reply], ?_⟩
    -- Either the kernel refuses with an error, or it takes the whole payload.
    rcases hreply with ⟨code, rfl, hcode, hinbox⟩ | ⟨p, hpeer, rfl, hinbox⟩
    · have hended : sendAll [.failed code] data = ([], .failed (.os code)) :=
        sendAll_failed hcode hdata []
      refine ⟨trivial, ?_, ?_, fun e => ?_⟩
      · rw [writeVia_of_some hopen', hwrite]
      · rw [writeVia_of_some hopen', hwrite, hended]
        rfl
      · rw [writeVia_of_some hopen', hended, ite_self, List.append_nil]
        exact hinbox e
    · have hended : sendAll [.taken data.length] data = (data, .finished) := by
        rw [sendAll_taken (List.length_pos_of_ne_nil hdata) le_rfl, List.take_length,
          List.drop_length, sendAll_nil, List.append_nil]
      refine ⟨⟨List.length_pos_of_ne_nil hdata, le_rfl, trivial⟩, ?_, ?_, fun e => ?_⟩
      · rw [writeVia_of_some hopen', hwrite]
      · rw [writeVia_of_some hopen', hwrite, hended]
        rfl
      · rw [writeVia_of_some hopen', hended, hpeer]
        refine (hinbox e).trans ?_
        -- Only the inbox of the peer has grown.
        by_cases he : e = p
        · rw [he]
          simp only [true_and]
        · rw [if_neg fun hand => he hand.1, if_neg fun hand => he (Option.some.inj hand.1).symm]

/-- Whatever the socket of an open connection answers, it took a prefix of the
    payload, and the write succeeded exactly if that is all of it. A write that has
    ended well or badly calls no more, and one of nothing never calls. The kernel
    of this model answers one of these ways. -/
theorem write_all_or_error (hopen : s.socket? c = some q) (data : Bytes) :
    (∀ replies, Fair data.length replies → ∃ heard, heard <+: replies ∧
      (∀ before reply, before ++ [reply] <+: heard →
        (s.writeVia before c data).result = none) ∧
      (s.writeVia replies c data).sent = data.take (accepted heard) ∧
      accepted heard ≤ data.length ∧
      ((s.writeVia replies c data).result = some (.ok ()) ↔ accepted heard = data.length) ∧
      s.Concludes c data replies heard (s.writeVia replies c data).state
        (s.writeVia replies c data).result ∧
      ((s.writeVia replies c data).result ≠ none →
        ∀ more, s.writeVia (heard ++ more) c data = s.writeVia replies c data)) ∧
    (∀ replies, s.writeVia replies c [] = ⟨s, [], some (.ok ())⟩) ∧
    (s.Wired → ∃ k replies, s.AnsweredBy c q data k replies) := by
  refine ⟨fun replies hfair => ?_, fun replies => ?_, fun h => exists_answeredBy h hopen data⟩
  · rcases exists_hears replies data hfair with ⟨heard, h⟩
    have hvia := fun rs => writeVia_of_some hopen rs data
    have hconcludes := concludes_writeVia hopen h
    have hwaiting : ∀ rs, (s.writeVia rs c data).result = none ↔
        (sendAll rs data).2 = .waiting := by
      intro rs
      rw [hvia]
      exact settled_eq_none
    refine ⟨heard, h.front, fun before reply hprefix => ?_, ?_, accepted_le h.decides,
      hconcludes.result_eq_ok_iff, hconcludes, fun hended more => ?_⟩
    · exact (hwaiting before).mpr (h.asked before reply hprefix)
    · rw [hvia, h.sent]
    · -- The answers heard have ended the write by themselves.
      have hend : (sendAll heard data).2 ≠ .waiting := by
        rw [h.enough]
        exact fun heq => hended ((hwaiting replies).mpr heq)
      rw [hvia, hvia, sendAll_append heard more data hend, h.enough]
  · rw [writeVia_of_some hopen, sendAll_nil]
    rfl

/-- A payload is taken in two pieces with a signal in between, and then the peer is
    found gone. The call that comes next is not made. -/
theorem write_all_or_error_pieces :
    let s := run [.pair 10 11] (init 0)
    let replies : List SendReply :=
      [.taken 2, .failed 4, .taken 1, .failed IoError.pipeBroken, .taken 1]
    s.socket? 0 = some 0 ∧ Fair 4 replies ∧
      (s.writeVia replies 0 [1, 2, 3, 4]).sent = [1, 2, 3] ∧
      (s.writeVia replies 0 [1, 2, 3, 4]).result = some (.error (.os IoError.pipeBroken)) ∧
      (∃ heard, heard <+: replies ∧ ([1, 2, 3] : Bytes) = [1, 2, 3, 4].take (accepted heard) ∧
        s.Concludes 0 [1, 2, 3, 4] replies heard (s.writeVia replies 0 [1, 2, 3, 4]).state
          (some (.error (.os IoError.pipeBroken)))) ∧
      (s.writeVia [.taken 4] 0 [1, 2, 3, 4]).result = some (.ok ()) ∧
      ∃ k replies, s.AnsweredBy 0 0 [1, 2, 3, 4] k replies := by
  intro s replies
  have hopen : s.socket? 0 = some 0 := by decide +kernel
  have hfair : Fair 4 replies :=
    ⟨by decide, by decide, by decide, by decide, by decide, by decide, trivial⟩
  have hsent : (s.writeVia replies 0 [1, 2, 3, 4]).sent = [1, 2, 3] := by decide +kernel
  have hresult : (s.writeVia replies 0 [1, 2, 3, 4]).result =
      some (.error (.os IoError.pipeBroken)) := by decide +kernel
  rcases write_all_or_error hopen [1, 2, 3, 4] with ⟨hvia, -, hkernel⟩
  rcases hvia replies hfair with ⟨heard, hfront, -, htaken, -, -, hconcludes, -⟩
  rw [hsent] at htaken
  rw [hresult] at hconcludes
  exact ⟨hopen, hfair, hsent, hresult, ⟨heard, hfront, htaken, hconcludes⟩, by decide +kernel,
    hkernel (wired_run 0 _)⟩

end System

end ReadNotify
