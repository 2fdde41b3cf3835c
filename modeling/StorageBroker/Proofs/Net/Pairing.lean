import StorageBroker.Net.Client
import StorageBroker.Proofs.Net.Framing

/-! # Calls and their answers

Calls of one client, one after the other, to a peer that sends at most one frame for a request. A
connection is kept only after the frame for its last request was read to the end, so nothing is
left on it. Hence a call that gives a response gives the one sent for its own request, and it uses
the connection of the call before it exactly if that call was answered. -/

set_option autoImplicit false

namespace StorageBroker

/-- The peer sends at most one frame: nothing follows a frame that is complete. -/
def PeerMove.Single (move : PeerMove) : Prop :=
  ∀ payload rest, Frame.read move.bytes = .ok (some (payload, rest)) → rest = []

theorem PeerMove.single_frame {payload : List UInt8} (fits : payload.length ≤ Frame.limit)
    (closes : Bool) : Single ⟨Frame.frame payload, closes⟩ := by
  intro payload' rest read
  have own := Frame.read_frame fits []
  rw [List.append_nil] at own
  rw [own] at read
  simp_all

namespace Client

/-- A call with the network that it meets, what the peer does with its request, and what cuts it
short. -/
structure Attempt where
  network : Network
  request : Request
  move : PeerMove
  cut : Option Interruption

/-- Whether a call gets as far as being connected when it has to connect. -/
def Attempt.Connects (next : Attempt) (address : String) : Prop :=
  Interruption.resultAt? next.cut .connecting = none ∧
    ∃ peer, next.network.connect address = .ok peer

/-- A client between two calls, and how many connections its peer has accepted. -/
structure Dialogue where
  client : Client
  accepted : Nat

/-- How the next call goes. -/
def Attempt.report (next : Attempt) (s : Dialogue) : CallReport :=
  s.client.call next.network s.accepted next.request next.move next.cut

namespace Dialogue

def fresh (address : String) (accepted : Nat) : Dialogue := ⟨.ofAddress address, accepted⟩

def step (s : Dialogue) (next : Attempt) : Dialogue :=
  ⟨(next.report s).client, (next.report s).accepted⟩

def run (s : Dialogue) (history : List Attempt) : Dialogue := history.foldl step s

theorem run_append (s : Dialogue) (first rest : List Attempt) :
    s.run (first ++ rest) = (s.run first).run rest :=
  List.foldl_append

/-! ## One call -/

/-- The connection that a call takes: the one that is kept, or a new one. -/
inductive Takes (s : Dialogue) (next : Attempt) : Channel → Nat → Prop
  | kept {channel : Channel} (kept : s.client.kept = some channel) :
      Takes s next channel s.accepted
  | opened (none : s.client.kept = none) (connects : next.Connects s.client.address) :
      Takes s next ⟨s.accepted + 1, [], false⟩ (s.accepted + 1)

inductive Outcome (s : Dialogue) (next : Attempt) : CallReport → Prop
  | early (cut : next.cut = some .early) :
      Outcome s next ⟨none, s.client, s.accepted, none, none⟩
  | unconnected {result : CallResult} (turn : next.cut ≠ some .early)
      (none : s.client.kept = none) (unable : ¬ next.Connects s.client.address)
      (unanswered : ∀ response, result ≠ some (.ok response)) :
      Outcome s next ⟨result, { s.client with kept := .none }, s.accepted, .none, .none⟩
  | unanswered {result : CallResult} {channel : Channel} {accepted : Nat}
      {received : Option (Nat × List UInt8)} (turn : next.cut ≠ some .early)
      (takes : Takes s next channel accepted)
      (unanswered : ∀ response, result ≠ some (.ok response)) :
      Outcome s next
        ⟨result, { s.client with kept := none }, accepted, some channel.number, received⟩
  | answered {response : Response} {channel : Channel} {accepted : Nat}
      {payload rest : List UInt8} (turn : next.cut ≠ some .early)
      (takes : Takes s next channel accepted)
      (read : Frame.read (channel.after next.move).unread = .ok (some (payload, rest)))
      (decoded : Wire.ofPayload? payload = .ok response) :
      Outcome s next ⟨some (.ok response),
        { s.client with kept := some { channel.after next.move with unread := rest } }, accepted,
        some channel.number, if channel.closed then none
          else some (channel.number, Wire.encode next.request)⟩

theorem resultAt?_unanswered {cut : Option Interruption} {point : CallPoint} {result : CallResult}
    (cuts : Interruption.resultAt? cut point = some result) (response : Response) :
    result ≠ some (.ok response) := by
  unfold Interruption.resultAt? at cuts
  grind

theorem readResponse_outcome (channel : Channel) :
    readResponse channel = none ∨ (∃ e, readResponse channel = some (.error e)) ∨
    ∃ response payload rest,
      readResponse channel = some (.ok (response, { channel with unread := rest })) ∧
      Frame.read channel.unread = .ok (some (payload, rest)) ∧
      Wire.ofPayload? payload = .ok response := by
  unfold readResponse
  cases read : Frame.read channel.unread with
  | error e =>
      cases e with
      | io e => by_cases closed : channel.closed = true <;> simp [closed]
      | serialization | frameTooLarge | closed | remote | unexpectedReply | unresolved =>
          exact .inr (.inl ⟨_, rfl⟩)
  | ok front =>
      cases front with
      | none => by_cases closed : channel.closed = true <;> simp [closed]
      | some front =>
          cases decoded : Wire.ofPayload? (α := Response) front.1 with
          | error e => exact .inr (.inl ⟨.ofWire e, by simp only [decoded]⟩)
          | ok response => exact .inr (.inr ⟨response, _, _, by simp only [decoded], rfl, decoded⟩)

/-- An exchange ends without a response and without a connection, or with the first frame that is
on the connection once the peer has made its move. -/
theorem exchange_outcome (channel : Channel) (next : Attempt) :
    (∃ result received, exchange channel next.request next.move next.cut =
      (result, none, received) ∧ ∀ response, result ≠ some (.ok response)) ∨
    ∃ response payload rest, exchange channel next.request next.move next.cut =
      (some (.ok response), some { channel.after next.move with unread := rest },
        if channel.closed then none else some (Wire.encode next.request)) ∧
      Frame.read (channel.after next.move).unread = .ok (some (payload, rest)) ∧
      Wire.ofPayload? payload = .ok response := by
  unfold exchange
  cases Frame.writeMessage next.request with
  | error e => exact .inl ⟨_, _, rfl, by simp⟩
  | ok frame =>
      cases writing : Interruption.resultAt? next.cut .writing with
      | some result => exact .inl ⟨_, _, rfl, resultAt?_unanswered writing⟩
      | none =>
          cases reading : Interruption.resultAt? next.cut .reading with
          | some result => exact .inl ⟨_, _, rfl, resultAt?_unanswered reading⟩
          | none =>
              rcases readResponse_outcome (channel.after next.move) with
                waits | ⟨e, failed⟩ | ⟨response, payload, rest, done, read, decoded⟩
              · rw [waits]
                exact .inl ⟨_, _, rfl, by simp⟩
              · rw [failed]
                exact .inl ⟨_, _, rfl, by simp⟩
              · rw [done]
                exact .inr ⟨response, payload, rest, rfl, read, decoded⟩

theorem takeChannel_outcome (s : Dialogue) (next : Attempt) :
    (∃ channel accepted, takeChannel s.client next.network s.accepted next.cut =
      .ok (channel, accepted) ∧ Takes s next channel accepted) ∨
    ∃ result, takeChannel s.client next.network s.accepted next.cut = .error result ∧
      s.client.kept = none ∧ ¬ next.Connects s.client.address ∧
      ∀ response, result ≠ some (.ok response) := by
  unfold takeChannel
  cases kept : s.client.kept with
  | some channel => exact .inl ⟨_, _, rfl, .kept kept⟩
  | none =>
      cases connecting : Interruption.resultAt? next.cut .connecting with
      | some result =>
          refine .inr ⟨_, rfl, rfl, ?_, resultAt?_unanswered connecting⟩
          simp [Attempt.Connects, connecting]
      | none =>
          cases peer : next.network.connect s.client.address with
          | error e =>
              refine .inr ⟨_, rfl, rfl, ?_, by simp⟩
              simp [Attempt.Connects, peer]
          | ok peer => exact .inl ⟨_, _, rfl, .opened kept ⟨connecting, _, peer⟩⟩

theorem report_outcome (s : Dialogue) (next : Attempt) : Outcome s next (next.report s) := by
  unfold Attempt.report call
  by_cases turn : next.cut = some .early
  · rw [if_pos turn]
    exact .early turn
  rw [if_neg turn]
  rcases takeChannel_outcome s next with
    ⟨channel, accepted, taken, takes⟩ | ⟨result, taken, none, unable, unanswered⟩
  · rw [taken]
    rcases exchange_outcome channel next with
      ⟨result, received, done, unanswered⟩ | ⟨response, payload, rest, done, read, decoded⟩
    · simp only [done]
      exact .unanswered turn takes unanswered
    · have answered := Outcome.answered turn takes read decoded
      simp only [done]
      by_cases closed : channel.closed = true <;> simpa [closed] using answered
  · rw [taken]
    exact .unconnected turn none unable unanswered

/-! ## What is kept between calls -/

/-- Nothing is left unread on the connection that is kept, and its number was given out. -/
def Clean (s : Dialogue) : Prop :=
  ∀ channel, s.client.kept = some channel → channel.unread = [] ∧ channel.number ≤ s.accepted

theorem clean_fresh (address : String) (accepted : Nat) : Clean (fresh address accepted) := by
  intro channel kept
  simp [fresh, ofAddress] at kept

theorem Takes.clean {s : Dialogue} (clean : s.Clean) {next : Attempt} {channel : Channel}
    {accepted : Nat} (takes : Takes s next channel accepted) :
    channel.unread = [] ∧ channel.number ≤ accepted := by
  cases takes with
  | kept kept => exact clean channel kept
  | opened none connects => exact ⟨rfl, Nat.le_refl _⟩

/-- A peer that sends at most one frame has sent a frame that is read on a clean connection for the
request of the call itself. -/
theorem Takes.own_frame {s : Dialogue} (clean : s.Clean) {next : Attempt} {channel : Channel}
    {accepted : Nat} (takes : Takes s next channel accepted) (single : next.move.Single)
    {payload rest : List UInt8}
    (read : Frame.read (channel.after next.move).unread = .ok (some (payload, rest))) :
    channel.closed = false ∧ rest = [] ∧ Frame.read next.move.bytes = .ok (some (payload, [])) := by
  have empty := (takes.clean clean).1
  unfold Channel.after at read
  cases closed : channel.closed with
  | true =>
      -- the peer has closed the connection, and there is nothing on it
      rw [if_pos closed, empty] at read
      cases read
  | false =>
      rw [if_neg (by simp [closed]), empty, List.nil_append] at read
      obtain rfl := single payload rest read
      exact ⟨rfl, rfl, read⟩

theorem step_preserves_clean {s : Dialogue} (clean : s.Clean) {next : Attempt}
    (single : next.move.Single) : (s.step next).Clean := by
  have outcome := report_outcome s next
  unfold step
  intro channel kept
  generalize next.report s = report at outcome kept ⊢
  cases outcome with
  | early cut => exact clean channel kept
  | unconnected turn none unable unanswered => simp at kept
  | unanswered turn takes unanswered => simp at kept
  | @answered response used accepted payload rest turn takes read decoded =>
      obtain rfl := Option.some.inj kept
      refine ⟨(takes.own_frame clean single read).2.1, ?_⟩
      rw [Channel.after_number]
      exact (takes.clean clean).2

theorem run_preserves_clean {s : Dialogue} (clean : s.Clean) {history : List Attempt}
    (single : ∀ a ∈ history, a.move.Single) : (s.run history).Clean := by
  induction history generalizing s with
  | nil => exact clean
  | cons next rest ih =>
      exact ih (step_preserves_clean clean (single next List.mem_cons_self))
        fun a member => single a (List.mem_cons_of_mem _ member)

/-- Calls that are abandoned before their turn change nothing. -/
theorem run_early (s : Dialogue) {idle : List Attempt}
    (early : ∀ a ∈ idle, a.cut = some .early) : s.run idle = s := by
  induction idle with
  | nil => rfl
  | cons next rest ih =>
      have same : s.step next = s := by
        unfold step Attempt.report call
        rw [if_pos (early next List.mem_cons_self)]
      change (s.step next).run rest = s
      rw [same]
      exact ih fun a member => early a (List.mem_cons_of_mem _ member)

theorem step_address (s : Dialogue) (next : Attempt) :
    (s.step next).client.address = s.client.address := by
  have outcome := report_outcome s next
  unfold step
  generalize next.report s = report at outcome ⊢
  cases outcome <;> rfl

theorem run_address (s : Dialogue) (history : List Attempt) :
    (s.run history).client.address = s.client.address := by
  induction history generalizing s with
  | nil => rfl
  | cons next rest ih => exact (ih (s.step next)).trans (s.step_address next)

/-! ## Pairing -/

/-- The response of a call is what the peer sent for its request on the connection of the call. -/
theorem report_own {s : Dialogue} (clean : s.Clean) {next : Attempt}
    (single : next.move.Single) {response : Response}
    (done : (next.report s).result = some (.ok response)) :
    ∃ payload n, Frame.read next.move.bytes = .ok (some (payload, [])) ∧
      Wire.ofPayload? payload = .ok response ∧ (next.report s).connection = some n ∧
      (next.report s).received = some (n, Wire.encode next.request) := by
  have outcome := report_outcome s next
  generalize next.report s = report at outcome done ⊢
  cases outcome with
  | early cut => simp at done
  | unconnected turn none unable unanswered => exact absurd done (unanswered response)
  | unanswered turn takes unanswered => exact absurd done (unanswered response)
  | @answered response' used accepted payload rest turn takes read decoded =>
      obtain rfl := Except.ok.inj (Option.some.inj done)
      obtain ⟨stands, -, own⟩ := takes.own_frame clean single read
      refine ⟨payload, used.number, own, decoded, rfl, ?_⟩
      rw [if_neg (by simp [stands])]

/-- A call that was answered leaves its connection, one that had its turn in vain leaves none. -/
theorem report_kept (s : Dialogue) {last : Attempt} (turn : last.cut ≠ some .early) :
    ((∃ response, (last.report s).result = some (.ok response)) ∧
      ∃ channel, (last.report s).client.kept = some channel ∧
        (last.report s).connection = some channel.number) ∨
    ((¬ ∃ response, (last.report s).result = some (.ok response)) ∧
      (last.report s).client.kept = none) := by
  have outcome := report_outcome s last
  generalize last.report s = report at outcome ⊢
  cases outcome with
  | early cut => exact absurd cut turn
  | unconnected turn none unable unanswered =>
      exact .inr ⟨fun answered => answered.elim unanswered, rfl⟩
  | unanswered turn takes unanswered =>
      exact .inr ⟨fun answered => answered.elim unanswered, rfl⟩
  | @answered response used accepted payload rest turn takes read decoded =>
      exact .inl ⟨⟨_, rfl⟩, _, rfl, by rw [Channel.after_number]⟩

/-- A call that has its turn uses the connection that is kept, or else opens the next one. -/
theorem report_connection (s : Dialogue) {next : Attempt} (turn : next.cut ≠ some .early) :
    (∃ channel, s.client.kept = some channel ∧
      (next.report s).connection = some channel.number) ∨
    (s.client.kept = none ∧
      (next.Connects s.client.address → (next.report s).connection = some (s.accepted + 1)) ∧
      (¬ next.Connects s.client.address → (next.report s).connection = none)) := by
  have taken : ∀ {channel accepted}, Takes s next channel accepted →
      (∃ kept, s.client.kept = some kept ∧ some channel.number = some kept.number) ∨
      (s.client.kept = none ∧
        (next.Connects s.client.address → some channel.number = some (s.accepted + 1)) ∧
        (¬ next.Connects s.client.address → some channel.number = none)) := by
    intro channel accepted takes
    cases takes with
    | kept kept => exact .inl ⟨channel, kept, rfl⟩
    | opened none connects => exact .inr ⟨none, fun _ => rfl, fun unable => absurd connects unable⟩
  have outcome := report_outcome s next
  generalize next.report s = report at outcome ⊢
  cases outcome with
  | early cut => exact absurd cut turn
  | unconnected turn none unable unanswered =>
      exact .inr ⟨none, fun connects => absurd connects unable, fun _ => rfl⟩
  | unanswered turn takes unanswered => exact taken takes
  | answered turn takes read decoded => exact taken takes

theorem connection_le {s : Dialogue} (clean : s.Clean) {next : Attempt} {n : Nat}
    (used : (next.report s).connection = some n) : n ≤ (next.report s).accepted := by
  have outcome := report_outcome s next
  generalize next.report s = report at outcome used ⊢
  cases outcome with
  | early cut => simp at used
  | unconnected turn none unable unanswered => simp at used
  | unanswered turn takes unanswered | answered turn takes read decoded =>
      obtain rfl := Option.some.inj used
      exact (takes.clean clean).2

/-- The call after one that had its turn uses the same connection exactly if that one was answered;
otherwise it opens a new one, if it gets as far. -/
theorem reuse_iff_answered {s : Dialogue} (clean : s.Clean) {last next : Attempt}
    (turn : last.cut ≠ some .early) (later : next.cut ≠ some .early) :
    ((∃ response, (last.report s).result = some (.ok response)) ↔
      ∃ n, (last.report s).connection = some n ∧
        (next.report (s.step last)).connection = some n) ∧
    ((¬ ∃ response, (last.report s).result = some (.ok response)) →
      (next.Connects s.client.address →
        (next.report (s.step last)).connection = some ((last.report s).accepted + 1)) ∧
      (¬ next.Connects s.client.address →
        (next.report (s.step last)).connection = none)) := by
  have address := s.step_address last
  rcases report_kept s turn with ⟨answered, channel, kept, used⟩ | ⟨vain, none⟩
  · rcases (s.step last).report_connection later with ⟨same, found, reused⟩ | ⟨none, -⟩
    · obtain rfl := Option.some.inj (found.symm.trans kept)
      exact ⟨iff_of_true answered ⟨_, used, reused⟩, fun vain => absurd answered vain⟩
    · exact absurd (kept.symm.trans none) (by simp)
  · rcases (s.step last).report_connection later with ⟨same, found, -⟩ | ⟨-, opens, fails⟩
    · exact absurd (found.symm.trans none) (by simp)
    · rw [address] at opens fails
      refine ⟨iff_of_false vain ?_, fun _ => ⟨opens, fails⟩⟩
      rintro ⟨n, used, reused⟩
      have old := connection_le clean used
      by_cases connects : next.Connects s.client.address
      · have new := Option.some.inj (reused.symm.trans (opens connects))
        change n = (last.report s).accepted + 1 at new
        omega
      · exact absurd (reused.symm.trans (fails connects)) (by simp)

/-- Whatever calls a client has made to a peer that sends at most one frame for a request: a
response is the one that was sent for the request of its own call, on the connection of that call.
A call uses the connection of the last one that had its turn exactly if that one was answered;
otherwise it opens a new one, if it gets as far. -/
theorem calls_take_their_own_answers (address : String) (accepted : Nat) (history : List Attempt)
    (next : Attempt) (single : ∀ a ∈ history ++ [next], a.move.Single) :
    (∀ response, (next.report ((fresh address accepted).run history)).result =
        some (.ok response) →
      ∃ payload n, Frame.read next.move.bytes = .ok (some (payload, [])) ∧
        Wire.ofPayload? payload = .ok response ∧
        (next.report ((fresh address accepted).run history)).connection = some n ∧
        (next.report ((fresh address accepted).run history)).received =
          some (n, Wire.encode next.request)) ∧
    ∀ (earlier : List Attempt) (last : Attempt) (idle : List Attempt),
      history = earlier ++ last :: idle → last.cut ≠ some .early →
      (∀ a ∈ idle, a.cut = some .early) → next.cut ≠ some .early →
      let before := last.report ((fresh address accepted).run earlier)
      let report := next.report ((fresh address accepted).run history)
      ((∃ response, before.result = some (.ok response)) ↔
        ∃ n, before.connection = some n ∧ report.connection = some n) ∧
      ((¬ ∃ response, before.result = some (.ok response)) →
        (next.Connects address → report.connection = some (before.accepted + 1)) ∧
        (¬ next.Connects address → report.connection = none)) := by
  have singles : ∀ a ∈ history, a.move.Single :=
    fun a member => single a (List.mem_append_left _ member)
  refine ⟨?_, ?_⟩
  · intro response done
    exact report_own (run_preserves_clean (clean_fresh address accepted) singles)
      (single next (by simp)) done
  · rintro earlier last idle rfl turn early later
    have clean : ((fresh address accepted).run earlier).Clean :=
      run_preserves_clean (clean_fresh address accepted)
        fun a member => singles a (List.mem_append_left _ member)
    have there : (fresh address accepted).run (earlier ++ last :: idle) =
        ((fresh address accepted).run earlier).step last := by
      rw [run_append]
      exact run_early _ early
    have reuse := reuse_iff_answered clean turn later
    rw [run_address] at reuse
    rw [there]
    exact reuse

/-- The answer to an abandoned call comes late and stays on the connection that was dropped; the
next call opens a new one, and the one after that uses it again. -/
theorem late_answer_is_not_taken :
    let up : Network := ⟨[], true, fun _ => []⟩
    let priority : PeerMove := ⟨Frame.frame (Wire.encode (Response.ok (.priority 7))), false⟩
    let pong : PeerMove := ⟨Frame.frame (Wire.encode (Response.ok .empty)), false⟩
    let slow : Attempt := ⟨up, .getTransferPriority ⟨1⟩, priority, some (.abandoned .reading)⟩
    let ping : Attempt := ⟨up, .ping, pong, none⟩
    let s := (fresh "[::1]:9000" 0).run [slow]
    (∃ payload n, Frame.read pong.bytes = .ok (some (payload, [])) ∧
      Wire.ofPayload? payload = .ok (Response.ok .empty) ∧
      (ping.report s).connection = some n ∧
      (ping.report s).received = some (n, Wire.encode Request.ping)) ∧
    (ping.report s).connection = some 2 ∧
    ∃ n, (ping.report s).connection = some n ∧ (ping.report (s.step ping)).connection = some n := by
  intro up priority pong slow ping s
  have one : ∀ history, (∀ a ∈ history, a = slow ∨ a = ping) →
      ∀ a ∈ history ++ [ping], a.move.Single := by
    intro history known a member
    have single : priority.Single ∧ pong.Single :=
      ⟨PeerMove.single_frame (by decide) _, PeerMove.single_frame (by decide) _⟩
    grind
  have first := calls_take_their_own_answers "[::1]:9000" 0 [slow] ping (one _ (by simp))
  have second := calls_take_their_own_answers "[::1]:9000" 0 [slow, ping] ping
    (one _ (by simp))
  have answered : (ping.report s).result = some (.ok (Response.ok .empty)) := by
    have between : s = ⟨⟨"[::1]:9000", none⟩, 1⟩ := rfl
    rw [between]
    change (exchange ⟨2, [], false⟩ .ping pong none).1 = _
    rfl
  refine ⟨first.1 _ answered, ?_, ?_⟩
  · have vain : (slow.report (fresh "[::1]:9000" 0)).result = none := by rfl
    exact ((first.2 [] slow [] rfl (by decide) (by simp) (by decide)).2
      (fun answered => answered.elim fun _ done => absurd (vain.symm.trans done) (by simp))).1
      ⟨rfl, _, rfl⟩
  · exact (second.2 [slow] ping [] rfl (by decide) (by simp) (by decide)).1.mp ⟨_, answered⟩

end Dialogue

end Client

end StorageBroker
