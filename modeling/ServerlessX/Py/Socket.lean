import ServerlessX.Py.Act
import ServerlessX.Py.Bytes

/-! A connected stream socket, seen from the side that reads and from the side
that writes. The peer's bytes arrive in pieces of any size; both directions can
fail at any call. -/
namespace ServerlessX.Py

/-- What one `recv` call meets: at most `n + 1` bytes, or an error of the socket. -/
inductive Arrival where
  | upTo (n : Nat)
  | fault (text : String)

def Arrival.isFault : Arrival → Bool
  | .upTo _ => false
  | .fault _ => true

/-- `stream` is what the peer still sends before it ends the stream; once the
arrivals are used up, a call is given all it asks for. -/
structure Conn where
  stream : Bytes
  arrivals : List Arrival
  asked : List Nat
  closed : Bool

namespace Conn
variable {ε : Type}

/-- A connection just accepted. -/
def fresh (stream : Bytes) (arrivals : List Arrival) : Conn := ⟨stream, arrivals, [], false⟩

def faultless (c : Conn) : Bool := c.arrivals.all fun a => !a.isFault

def close (c : Conn) : Conn := { c with closed := true }

/-- The first `n` bytes are handed over. -/
def advance (c : Conn) (n : Nat) (arrivals : List Arrival) : Conn :=
  { c with stream := c.stream.drop n, arrivals := arrivals }

def recv (osError : String → ε) (n : Nat) : Act Conn ε Bytes := fun c =>
  let c := { c with asked := c.asked ++ [n] }
  if c.closed then (.error (osError "[Errno 9] Bad file descriptor"), c)
  else match c.arrivals with
    | [] => (.ok (c.stream.take n), c.advance n [])
    | .upTo m :: rest => (.ok (c.stream.take (min n (m + 1))), c.advance (min n (m + 1)) rest)
    | .fault text :: rest => (.error (osError text), { c with arrivals := rest })

/-- `c'` is `c` after exactly the bytes `b` were read from it. -/
structure Reads (c : Conn) (b : Bytes) (c' : Conn) : Prop where
  stream : c.stream = b ++ c'.stream
  closed : c'.closed = c.closed
  arrivals : c'.arrivals <:+ c.arrivals

theorem Reads.refl (c : Conn) : Reads c [] c := ⟨rfl, rfl, List.suffix_refl _⟩

theorem Reads.trans {c c' c'' : Conn} {b b' : Bytes} (h : Reads c b c') (h' : Reads c' b' c'') :
    Reads c (b ++ b') c'' := by
  refine ⟨?_, h'.closed.trans h.closed, h'.arrivals.trans h.arrivals⟩
  rw [h.stream, h'.stream, List.append_assoc]

theorem Reads.faultless {c c' : Conn} {b : Bytes} (h : Reads c b c')
    (hc : c.faultless = true) : c'.faultless = true := by
  rw [Conn.faultless, List.all_eq_true] at hc ⊢
  exact fun a ha => hc a (h.arrivals.mem ha)

theorem reads_advance (c : Conn) (n k : Nat) (rest : List Arrival) (h : rest <:+ c.arrivals) :
    Reads c (c.stream.take k) ({ c with asked := c.asked ++ [n] }.advance k rest) :=
  ⟨(List.take_append_drop k c.stream).symm, rfl, h⟩

/-- A call that returns hands over a first piece of the stream, empty only at
its end. -/
theorem recv_ok {osError : String → ε} {n : Nat} {c c' : Conn} {b : Bytes}
    (h : recv osError n c = (.ok b, c')) :
    Reads c b c' ∧ b.length ≤ n ∧ (b = [] → 0 < n → c.stream = []) := by
  unfold recv at h
  simp only at h
  split at h
  · cases h
  · split at h
    · next harr =>
      cases h
      refine ⟨reads_advance c n n [] List.nil_suffix, List.length_take_le n _, ?_⟩
      intro hnil hn
      obtain h0 | hs := List.take_eq_nil_iff.mp hnil
      · omega
      · exact hs
    · next m rest harr =>
      cases h
      have hsuf : rest <:+ c.arrivals := harr ▸ List.suffix_cons _ _
      refine ⟨reads_advance c n _ rest hsuf, ?_, ?_⟩
      · exact (List.length_take_le _ _).trans (Nat.min_le_left _ _)
      · intro hnil hn
        obtain h0 | hs := List.take_eq_nil_iff.mp hnil
        · omega
        · exact hs
    · cases h

/-- A call that raises reads nothing, and raises only for a fault of the socket. -/
theorem recv_error {osError : String → ε} {n : Nat} {c c' : Conn} {e : ε}
    (h : recv osError n c = (.error e, c')) :
    (∃ text, e = osError text) ∧ Reads c [] c' ∧ (c.closed = false → c.faultless = false) := by
  unfold recv at h
  simp only at h
  split at h
  · next hclosed =>
    cases h
    refine ⟨⟨_, rfl⟩, ⟨rfl, rfl, List.suffix_refl _⟩, fun hopen => ?_⟩
    rw [hopen] at hclosed
    cases hclosed
  · split at h
    · cases h
    · cases h
    · next text rest harr =>
      cases h
      have hsuf : rest <:+ c.arrivals := harr ▸ List.suffix_cons _ _
      refine ⟨⟨text, rfl⟩, ⟨rfl, rfl, hsuf⟩, fun _ => ?_⟩
      simp [faultless, harr, Arrival.isFault]

end Conn

/-- What one `sendall` call meets; a failing one may have written a first piece. -/
inductive Delivery where
  | whole
  | fault (text : String) (written : Nat)

structure Wire where
  sent : Bytes
  deliveries : List Delivery

namespace Wire
variable {ε : Type}

def sendall (osError : String → ε) (b : Bytes) : Act Wire ε Unit := fun w =>
  match w.deliveries with
  | [] => (.ok (), { w with sent := w.sent ++ b })
  | .whole :: rest => (.ok (), ⟨w.sent ++ b, rest⟩)
  | .fault text k :: rest => (.error (osError text), ⟨w.sent ++ b.take k, rest⟩)

/-- Nothing fails on this wire. -/
def faultless (w : Wire) : Bool := w.deliveries.all fun
  | .whole => true
  | .fault _ _ => false

/-- A call that returns has written all of its bytes. -/
theorem sendall_ok {osError : String → ε} {b : Bytes} {w w' : Wire} {u : Unit}
    (h : sendall osError b w = (.ok u, w')) : w'.sent = w.sent ++ b := by
  unfold sendall at h
  split at h
  · cases h
    rfl
  · cases h
    rfl
  · cases h

theorem sendall_faultless (osError : String → ε) (b : Bytes) {w : Wire}
    (h : w.faultless = true) : ∃ w', sendall osError b w = (.ok (), w') ∧
      w'.sent = w.sent ++ b ∧ w'.faultless = true := by
  unfold sendall
  split
  · exact ⟨_, rfl, rfl, h⟩
  · next rest hd =>
    refine ⟨_, rfl, rfl, ?_⟩
    rw [faultless, hd, List.all_cons] at h
    exact h
  · next text k rest hd => simp [faultless, hd] at h

end Wire
end ServerlessX.Py
