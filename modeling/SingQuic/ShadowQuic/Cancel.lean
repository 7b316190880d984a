import SingQuic.ShadowQuic.SendInvariant

/-! Dropping the future of a `send` at one of its awaits. The lock is released, the
bytes that the transport has accepted stay on their stream and the rest of the write is
forgotten; the stream itself stays in use, unless the call alone held it. -/
namespace SingQuic.ShadowQuic
open Wire

/-- A call that waits for the lock has not begun, so dropping it changes nothing. -/
inductive CancelAction where
  | call (action : SendAction)
  | cancel (association : Nat)

/-- `cancelled` lists the calls whose futures were dropped. -/
structure Cancellable where
  sender : Sender
  cancelled : List Nat

def Cancellable.initial : Cancellable := ⟨.initial, []⟩

/-- The call under way. -/
def Progress.call : Progress → Option Nat
  | .idle => none
  | .control call _ | .opening call _ | .header call _ _ | .payload call _ => some call

/-- The rest of a write that was dropped never leaves. -/
def SendStream.abandon (self : SendStream) : SendStream := { self with pending := [] }

namespace Sender

def abandonUni (self : Sender) (stream : Nat) (uni : UniStream) : Sender :=
  { self with unis := self.unis.set stream { uni with stream := uni.stream.abandon } }

def cancel (self : Sender) (association : Nat) (connection : PacketConnection) : Option Sender :=
  match connection.progress with
  | .idle => none
  | .control _ _ => some (self.setConnection association { connection with
      control := connection.control.abandon, progress := .idle })
  | .opening _ _ => some (self.setConnection association { connection with progress := .idle })
  | .header _ _ stream | .payload _ stream =>
    (self.unis[stream]?).map fun uni =>
      (self.abandonUni stream uni).setConnection association { connection with progress := .idle }

/-- The record that the call under way writes to the control stream. -/
def currentRecord (self : Sender) : Progress → Option (Address × Nat)
  | .control call number => (self.calls[call]?).map fun sent => (sent.packet.destination, number)
  | _ => none

/-- The packet that the call under way writes to a unidirectional stream. -/
def currentPacket (self : Sender) (stream : Nat) : Progress → Option (Nat × Bytes)
  | .payload call target =>
    if target = stream then (self.calls[call]?).map fun sent => (call, sent.packet.data) else none
  | _ => none

section Current
variable {self : Sender} {call number stream : Nat} {sent : SendCall}

theorem currentRecord_control (called : self.calls[call]? = some sent) :
    self.currentRecord (.control call number) = some (sent.packet.destination, number) := by
  rw [currentRecord, called, Option.map_some]

theorem currentPacket_payload (called : self.calls[call]? = some sent) :
    self.currentPacket stream (.payload call stream) = some (call, sent.packet.data) := by
  rw [currentPacket, if_pos rfl, called, Option.map_some]

end Current

/-- The rules of `cancel`. -/
inductive Cancelled (self : Sender) (association : Nat) (connection : PacketConnection) (call : Nat) :
    Sender → Prop where
  | record (number : Nat) (stage : connection.progress = .control call number) :
      Cancelled self association connection call (self.setConnection association { connection with
        control := connection.control.abandon, progress := .idle })
  | opening (number : Nat) (stage : connection.progress = .opening call number) :
      Cancelled self association connection call
        (self.setConnection association { connection with progress := .idle })
  | header (number stream : Nat) (uni : UniStream)
      (stage : connection.progress = .header call number stream) (here : self.unis[stream]? = some uni) :
      Cancelled self association connection call
        ((self.abandonUni stream uni).setConnection association { connection with progress := .idle })
  | packet (stream : Nat) (uni : UniStream) (stage : connection.progress = .payload call stream)
      (here : self.unis[stream]? = some uni) :
      Cancelled self association connection call
        ((self.abandonUni stream uni).setConnection association { connection with progress := .idle })

theorem cancel_rule {self next : Sender} {association call : Nat} {connection : PacketConnection}
    (running : connection.progress.call = some call)
    (stepped : self.cancel association connection = some next) :
    self.Cancelled association connection call next := by
  unfold cancel at stepped
  split at stepped
  · contradiction
  · rename_i other number stage
    rw [stage] at running
    obtain rfl := Option.some.inj running
    obtain rfl := Option.some.inj stepped
    exact .record number stage
  · rename_i other number stage
    rw [stage] at running
    obtain rfl := Option.some.inj running
    obtain rfl := Option.some.inj stepped
    exact .opening number stage
  · rename_i other number stream stage
    rw [stage] at running
    obtain rfl := Option.some.inj running
    obtain ⟨uni, here, rfl⟩ := Option.map_eq_some_iff.mp stepped
    exact .header number stream uni stage here
  · rename_i other stream stage
    rw [stage] at running
    obtain rfl := Option.some.inj running
    obtain ⟨uni, here, rfl⟩ := Option.map_eq_some_iff.mp stepped
    exact .packet stream uni stage here

end Sender

def cancelStep (self : Cancellable) : CancelAction → Option Cancellable
  | .call action => (sendStep self.sender action).map fun sender => { self with sender }
  | .cancel association =>
    (self.sender.connections[association]?).bind fun connection =>
      (connection.progress.call).bind fun call =>
        (self.sender.cancel association connection).map fun sender =>
          ⟨sender, self.cancelled ++ [call]⟩

/-- The rules of `cancelStep`. -/
inductive CancelRule (self : Cancellable) : CancelAction → Cancellable → Prop where
  | call (action : SendAction) (sender : Sender) (sent : sendStep self.sender action = some sender) :
      CancelRule self (.call action) { self with sender }
  | cancel (association call : Nat) (connection : PacketConnection) (sender : Sender)
      (found : self.sender.connections[association]? = some connection)
      (cancelled : self.sender.Cancelled association connection call sender) :
      CancelRule self (.cancel association) ⟨sender, self.cancelled ++ [call]⟩

theorem cancelStep_rule {self next : Cancellable} {action : CancelAction}
    (stepped : cancelStep self action = some next) : CancelRule self action next := by
  cases action with
  | call action =>
    obtain ⟨sender, sent, rfl⟩ := Option.map_eq_some_iff.mp stepped
    exact .call action sender sent
  | cancel association =>
    obtain ⟨connection, found, rest⟩ := Option.bind_eq_some_iff.mp stepped
    obtain ⟨call, running, dropped⟩ := Option.bind_eq_some_iff.mp rest
    obtain ⟨sender, cancelled, rfl⟩ := Option.map_eq_some_iff.mp dropped
    exact .cancel association call connection sender found (Sender.cancel_rule running cancelled)

/-- Of the record, or of the packet, that the cancelled call was writing either
nothing or everything has been accepted. -/
def Untorn (self : Cancellable) : CancelAction → Prop
  | .call _ => True
  | .cancel association => ∀ connection, self.sender.connections[association]? = some connection →
    (∀ record, self.sender.currentRecord connection.progress = some record →
      connection.control.pending = [] ∨ connection.control.pending = recordBytes record) ∧
    ∀ stream uni packet, self.sender.unis[stream]? = some uni →
      self.sender.currentPacket stream connection.progress = some packet →
      uni.stream.pending = [] ∨ uni.stream.pending = encodePacket packet.2

/-- A stream that carries whole frames and, while one is being written, a part of that
one. A write that failed may leave a part of its frame behind, but nothing follows it. -/
inductive SendStream.Carrying (legal : Bytes → Prop) (self : SendStream) (whole : Bytes) :
    Option Bytes → Prop where
  | resting (healthy : self.broken = none) (drained : self.pending = []) (written : self.written = whole) :
      Carrying legal self whole none
  | writing (frame flowed : Bytes) (healthy : self.broken = none) (fine : legal frame)
      (written : self.written = whole ++ flowed) (rest : flowed ++ self.pending = frame) :
      Carrying legal self whole (some frame)
  | torn (frame flowed : Bytes) (failed : self.broken ≠ none) (fine : legal frame)
      (written : self.written = whole ++ flowed) (part : flowed <+: frame) (short : flowed ≠ frame) :
      Carrying legal self whole none

namespace SendStream.Carrying
variable {legal : Bytes → Prop} {self : SendStream} {whole frame : Bytes} {current : Option Bytes}

theorem mono {legal' : Bytes → Prop} (more : ∀ frame, legal frame → legal' frame)
    (carrying : self.Carrying legal whole current) : self.Carrying legal' whole current := by
  cases carrying with
  | resting healthy drained written => exact .resting healthy drained written
  | writing frame flowed healthy fine written rest =>
    exact .writing frame flowed healthy (more frame fine) written rest
  | torn frame flowed failed fine written part short =>
    exact .torn frame flowed failed (more frame fine) written part short

theorem flow (carrying : self.Carrying legal whole current) (healthy : self.broken = none) (count : Nat) :
    (self.flow count).Carrying legal whole current := by
  cases carrying with
  | resting _ drained written =>
    refine .resting healthy ?_ ?_
    · simp [SendStream.flow, drained]
    · simp [SendStream.flow, drained, written]
  | writing frame flowed _ fine written rest =>
    refine .writing frame (flowed ++ self.pending.take count) healthy fine ?_ ?_
    · simp [SendStream.flow, written]
    · simp [SendStream.flow, rest]
  | torn frame flowed failed => exact absurd healthy failed

theorem writeAll (carrying : self.Carrying legal whole none) (healthy : self.broken = none)
    (fine : legal frame) : (self.writeAll frame).Carrying legal whole (some frame) := by
  cases carrying with
  | resting _ drained written =>
    exact .writing frame [] healthy fine (by simp [SendStream.writeAll, written])
      (by simp [SendStream.writeAll, drained])
  | torn _ _ failed => exact absurd healthy failed

theorem complete {legal' : Bytes → Prop} (carrying : self.Carrying legal whole (some frame))
    (drained : self.pending = []) : self.Carrying legal' (whole ++ frame) none := by
  cases carrying with
  | writing _ flowed healthy _ written rest =>
    rw [drained, List.append_nil] at rest
    exact .resting healthy drained (by rw [written, rest])

theorem fail (carrying : self.Carrying legal whole (some frame)) (unfinished : self.pending ≠ [])
    (text : String) : (self.fail text).Carrying legal whole none := by
  cases carrying with
  | writing _ flowed _ fine written rest =>
    refine .torn frame flowed (by simp [SendStream.fail]) fine written ⟨self.pending, rest⟩ ?_
    rintro rfl
    exact unfinished (List.append_cancel_left (rest.trans (List.append_nil _).symm))

/-- Dropping a write of which all or nothing has been accepted leaves whole frames. -/
theorem abandon (carrying : self.Carrying legal whole (some frame))
    (untorn : self.pending = [] ∨ self.pending = frame) :
    self.pending = [] ∧ self.abandon.Carrying legal (whole ++ frame) none ∨
      self.abandon.Carrying legal whole none := by
  rcases untorn with drained | untouched
  · refine Or.inl ⟨drained, ?_⟩
    have same : self.abandon = self := by
      cases self
      cases drained
      rfl
    rw [same]
    exact carrying.complete drained
  · refine Or.inr ?_
    cases carrying with
    | writing _ flowed healthy _ written rest =>
      rw [untouched, List.append_left_eq_self] at rest
      exact .resting healthy rfl (by simp [SendStream.abandon, written, rest])

/-- What was carried stands on the stream, followed by a part of one frame at most. -/
theorem written_eq (carrying : self.Carrying legal whole current) :
    ∃ flowed, self.written = whole ++ flowed ∧
      (flowed = [] ∨ ∃ frame, legal frame ∧ flowed <+: frame) := by
  cases carrying with
  | resting _ _ written => exact ⟨[], by rw [written, List.append_nil], Or.inl rfl⟩
  | writing frame flowed _ fine written rest =>
    exact ⟨flowed, written, Or.inr ⟨frame, fine, self.pending, rest⟩⟩
  | torn frame flowed _ fine written part => exact ⟨flowed, written, Or.inr ⟨frame, fine, part⟩⟩

end SendStream.Carrying

end SingQuic.ShadowQuic
