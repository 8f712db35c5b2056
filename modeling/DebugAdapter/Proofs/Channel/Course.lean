import DebugAdapter.Channel

/-!
# The course of a channel

How a channel comes from one state to another, message by message and note by note. What holds of
single messages and notes holds of a course by induction.
-/

namespace DebugAdapter

/-! ## What can be seen of effects -/

namespace Effect

/-- The frame that is offered to the client. -/
def attempt? : Effect → Option Attempt
  | .offers attempt => some attempt
  | _ => none

/-- The body that is taken up. -/
def taken? : Effect → Option Bytes
  | .takes body => some body
  | _ => none

/-- The frames offered to the client. -/
def attempts (effects : List Effect) : List Attempt :=
  effects.filterMap attempt?

/-- The frames that reach the client. -/
def deliveries (effects : List Effect) : List Attempt :=
  effects.filterMap delivered?

/-- The messages that reach the client, echoes left out. -/
def sent (effects : List Effect) : List Message :=
  ((deliveries effects).filter (!·.isEcho)).map (·.message)

/-- What the debugger is asked to do. -/
def operations (effects : List Effect) : List Operation :=
  effects.filterMap operation?

/-- The bodies that are taken up. -/
def taken (effects : List Effect) : List Bytes :=
  effects.filterMap taken?

section Projections

variable (effect : Effect) (effects others : List Effect)

@[simp] theorem attempts_nil : attempts [] = [] := rfl
@[simp] theorem deliveries_nil : deliveries [] = [] := rfl
@[simp] theorem sent_nil : sent [] = [] := rfl
@[simp] theorem operations_nil : operations [] = [] := rfl
@[simp] theorem taken_nil : taken [] = [] := rfl

@[simp]
theorem attempts_append : attempts (effects ++ others) = attempts effects ++ attempts others :=
  List.filterMap_append

@[simp]
theorem deliveries_append :
    deliveries (effects ++ others) = deliveries effects ++ deliveries others :=
  List.filterMap_append

@[simp]
theorem sent_append : sent (effects ++ others) = sent effects ++ sent others := by
  simp [sent]

@[simp]
theorem operations_append :
    operations (effects ++ others) = operations effects ++ operations others :=
  List.filterMap_append

@[simp]
theorem taken_append : taken (effects ++ others) = taken effects ++ taken others :=
  List.filterMap_append

@[simp]
theorem attempts_cons :
    attempts (effect :: effects) = effect.attempt?.toList ++ attempts effects := by
  cases h : effect.attempt? <;> simp [attempts, h]

@[simp]
theorem deliveries_cons :
    deliveries (effect :: effects) = effect.delivered?.toList ++ deliveries effects := by
  cases h : effect.delivered? <;> simp [deliveries, h]

@[simp]
theorem operations_cons :
    operations (effect :: effects) = effect.operation?.toList ++ operations effects := by
  cases h : effect.operation? <;> simp [operations, h]

@[simp]
theorem taken_cons : taken (effect :: effects) = effect.taken?.toList ++ taken effects := by
  cases h : effect.taken? <;> simp [taken, h]

theorem sent_cons : sent (effect :: effects) = sent [effect] ++ sent effects :=
  sent_append [effect] effects

/-- The frames that reach the client are those offered that are not refused. -/
theorem deliveries_eq_filter : deliveries effects = (attempts effects).filter (·.delivered) := by
  induction effects with
  | nil => rfl
  | cons effect effects ih =>
    rw [deliveries_cons, attempts_cons, List.filter_append, ih]
    cases effect with
    | offers attempt => cases h : attempt.delivered <;> simp [attempt?, delivered?, h]
    | _ => rfl

end Projections

end Effect

namespace Channel

/-! ## One message -/

theorem send_of_refused {channel : Channel} {message : Message} {reason : String}
    (h : (channel.offer message false).2.refusal = some reason) :
    channel.send message =
      ((channel.offer message false).1, [.offers (channel.offer message false).2],
        .error (.io reason)) := by
  simp [send, h]

theorem send_of_accepted {channel : Channel} {message : Message}
    (h : (channel.offer message false).2.refusal = none) :
    channel.send message =
      let noted := (channel.offer message false).1.note message.direction
        (channel.offer message false).2.payload
      (noted.1, .offers (channel.offer message false).2 :: noted.2,
        .ok (channel.offer message false).2.seq) := by
  simp [send, h]

/-! ## A channel neither takes up bodies nor calls the debugger -/

section Projections

open Effect

variable (channel : Channel)

@[simp]
theorem operations_note (direction : Direction) (text : String) :
    operations (channel.note direction text).2 = [] := by
  rw [note]
  split <;> rfl

@[simp]
theorem taken_note (direction : Direction) (text : String) :
    taken (channel.note direction text).2 = [] := by
  rw [note]
  split <;> rfl

@[simp]
theorem operations_send (message : Message) : operations (channel.send message).2.1 = [] := by
  cases h : (channel.offer message false).2.refusal with
  | some reason => rw [send_of_refused h]; rfl
  | none => simp [send_of_accepted h, operation?]

@[simp]
theorem taken_send (message : Message) : taken (channel.send message).2.1 = [] := by
  cases h : (channel.offer message false).2.refusal with
  | some reason => rw [send_of_refused h]; rfl
  | none => simp [send_of_accepted h, taken?]

@[simp]
theorem operations_raiseAll (events : List Event) :
    operations (channel.raiseAll events).2 = [] := by
  induction events generalizing channel with
  | nil => rfl
  | cons event events ih => simp [raiseAll, raise, ih]

@[simp]
theorem taken_raiseAll (events : List Event) : taken (channel.raiseAll events).2 = [] := by
  induction events generalizing channel with
  | nil => rfl
  | cons event events ih => simp [raiseAll, raise, ih]

end Projections

theorem raiseAll_append (channel : Channel) (events others : List Event) :
    channel.raiseAll (events ++ others) =
      (((channel.raiseAll events).1.raiseAll others).1,
        (channel.raiseAll events).2 ++ ((channel.raiseAll events).1.raiseAll others).2) := by
  induction events generalizing channel with
  | nil => rfl
  | cons event events ih => simp [raiseAll, ih]

/-! ## Messages and notes in a row -/

/-- What a channel is used for. -/
inductive Use where
  /-- A message goes to the client. -/
  | send (message : Message)
  /-- A text from the client is noted. -/
  | note (text : String)

/-- A channel used once. -/
def use (channel : Channel) : Use → Channel × List Effect
  | .send message => ((channel.send message).1, (channel.send message).2.1)
  | .note text => channel.noteInbound text

/-- A channel used several times. -/
def useAll (channel : Channel) : List Use → Channel × List Effect
  | [] => (channel, [])
  | first :: uses =>
    (((channel.use first).1.useAll uses).1,
      (channel.use first).2 ++ ((channel.use first).1.useAll uses).2)

/-- From one state of a channel to another by messages and notes, and the effects on
the way. Other effects may stand between those of the channel. -/
inductive Course : Channel → List Effect → Channel → Prop where
  | done (channel : Channel) : Course channel [] channel
  | use {channel last : Channel} {effects : List Effect} (first : Use)
      (rest : Course (channel.use first).1 effects last) :
      Course channel ((channel.use first).2 ++ effects) last
  | takes {channel last : Channel} {effects : List Effect} (body : Bytes)
      (rest : Course channel effects last) : Course channel (.takes body :: effects) last
  | calls {channel last : Channel} {effects : List Effect} (operation : Operation)
      (rest : Course channel effects last) : Course channel (.calls operation :: effects) last

namespace Course

variable {channel middle last : Channel} {effects others : List Effect}

theorem trans (h : Course channel effects middle) (h' : Course middle others last) :
    Course channel (effects ++ others) last := by
  induction h with
  | done => exact h'
  | use first _ ih =>
    rw [List.append_assoc]
    exact .use first (ih h')
  | takes body _ ih => exact .takes body (ih h')
  | calls operation _ ih => exact .calls operation (ih h')

theorem useAll (channel : Channel) (uses : List Use) :
    Course channel (channel.useAll uses).2 (channel.useAll uses).1 := by
  induction uses generalizing channel with
  | nil => exact .done channel
  | cons first uses ih => exact .use first (ih _)

theorem send (channel : Channel) (message : Message) :
    Course channel (channel.send message).2.1 (channel.send message).1 := by
  have hsend : Course channel ((channel.use (.send message)).2 ++ [])
      (channel.use (.send message)).1 := .use (.send message) (.done _)
  rwa [List.append_nil] at hsend

theorem noteInbound (channel : Channel) (text : String) :
    Course channel (channel.noteInbound text).2 (channel.noteInbound text).1 := by
  have hnote : Course channel ((channel.use (.note text)).2 ++ [])
      (channel.use (.note text)).1 := .use (.note text) (.done _)
  rwa [List.append_nil] at hnote

theorem raiseAll (channel : Channel) (events : List Event) :
    Course channel (channel.raiseAll events).2 (channel.raiseAll events).1 := by
  induction events generalizing channel with
  | nil => exact .done channel
  | cons event events ih => exact (send channel (.ofEvent event)).trans (ih _)

end Course

end Channel

end DebugAdapter
