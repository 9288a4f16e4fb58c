import StageMotion.Glide
import StageMotion.Random

/-!
# Motion blocks

The blocks of the motion palette and what each of them does in one tick. All but the two glides are
done within the tick that runs them. A block sees a `Moment` and acts on an `Actor`; what it leaves
is a `Turn`.

* `Destination.resolve` : the place of a destination. The pointer and named sprites are looked up in
  the world; a random place is drawn. Only a random place draws, and only a sprite that is not there
  has no place;
* `Block` : the blocks, their arguments filled in;
* `Palette` : what the blocks of one stage share, its playfield and its random numbers;
* `Block.tick` : one tick of a block.
-/

namespace StageMotion

/-! ## Looking a destination up -/

/-- What looking up a destination gives: its place, if it has one, and the source of random numbers
afterwards. -/
structure Resolved (γ α : Type) where
  point? : Option (Vec2 α)
  source : γ
  notes : List (Note α)

namespace Destination

variable {γ α : Type} [Scalar α] [Draws γ α]

/-- Looks a destination up. -/
def resolve (world : World α) (field : Playfield α) (source : γ) : Destination → Resolved γ α
  | pointer => ⟨some world.pointer, source, []⟩
  | random =>
    let (point, source) := field.randomPoint source
    ⟨some point, source, []⟩
  | named name =>
    match world.spriteAt? name with
    | some point => ⟨some point, source, []⟩
    | none => ⟨none, source, [.spriteUnknown name]⟩

end Destination

/-! ## Blocks -/

/-- A motion block with its arguments. -/
inductive Block (α : Type)
  | move (steps : α)
  | goToXY (x y : α)
  | goTo (goal : Destination)
  | turnRight (degrees : α)
  | turnLeft (degrees : α)
  | pointInDirection (degrees : α)
  /-- Faces a destination; a random one means a random heading and not a random place. -/
  | pointTowards (goal : Destination)
  | glideToXY (seconds x y : α)
  /-- Looks its destination up on every tick, though only the first find counts. -/
  | glideTo (seconds : α) (goal : Destination)
  | bounceOnEdge
  /-- A name that is no style is ignored. -/
  | setRotationStyle (name : String)
  | changeX (amount : α)
  | setX (x : α)
  | changeY (amount : α)
  | setY (y : α)
  deriving DecidableEq, Repr

/-- What the blocks of one stage share. -/
structure Palette (γ α : Type) where
  field : Playfield α
  source : γ

/-- What a block can see when it runs: the world and the clock, in milliseconds. -/
structure Moment (α : Type) where
  world : World α
  now : α

/-- What a block can change: the palette's random numbers, its own slot, and its target. -/
structure Actor (γ τ α : Type) where
  palette : Palette γ α
  slot : Option (Glide α)
  target : τ

/-- What one tick of a block leaves. -/
structure Turn (γ τ α : Type) extends Actor γ τ α where
  progress : Progress
  /-- The edge that the target came off. -/
  edge? : Option Edge
  notes : List (Note α)

namespace Actor

variable {γ τ α : Type}

/-- The end of a tick that leaves nothing but notes. -/
def rest (actor : Actor γ τ α) (notes : List (Note α)) : Turn γ τ α :=
  { actor with progress := .done, edge? := none, notes }

variable [Movable τ α]

/-- The actor with its target put somewhere. -/
def setPosition (actor : Actor γ τ α) (position : Vec2 α) : Actor γ τ α :=
  { actor with target := Movable.setPosition actor.target position }

/-- The actor with its target turned to a heading. -/
def setHeading (actor : Actor γ τ α) (heading : α) : Actor γ τ α :=
  { actor with target := Movable.setHeading actor.target heading }

/-- The actor with other random numbers to come. -/
def setSource (actor : Actor γ τ α) (source : γ) : Actor γ τ α :=
  { actor with palette := { actor.palette with source } }

/-- One tick of a glide in the actor's slot. -/
def glide [Scalar α] (actor : Actor γ τ α) (now seconds : α) (stop : Vec2 α) : Turn γ τ α :=
  let ticked := Glide.tick actor.slot now seconds stop actor.target
  { actor with
    slot := ticked.slot
    target := ticked.target
    progress := ticked.progress
    edge? := none
    notes := ticked.notes }

end Actor

namespace Block

variable {γ τ α : Type} [Scalar α] [Draws γ α] [Movable τ α]

/-- One tick of a block. -/
def tick (moment : Moment α) (actor : Actor γ τ α) : Block α → Turn γ τ α
  | move steps =>
    (actor.setPosition (position + steps • Heading.vector heading)).rest [.moved steps]
  | goToXY x y => (actor.setPosition ⟨x, y⟩).rest [.wentToXY x y]
  | goTo goal =>
    let found := resolve goal
    match found.point? with
    | some point =>
      ((actor.setSource found.source).setPosition point).rest (found.notes ++ [.wentTo goal point])
    | none => (actor.setSource found.source).rest found.notes
  | turnRight degrees => (actor.setHeading (heading + degrees)).rest [.turnedRight degrees]
  | turnLeft degrees => (actor.setHeading (heading - degrees)).rest [.turnedLeft degrees]
  | pointInDirection degrees => (actor.setHeading degrees).rest [.pointedInDirection degrees]
  | pointTowards .random =>
    let (heading, source) := Heading.random actor.palette.source
    ((actor.setSource source).setHeading heading).rest [.pointedAtRandom heading]
  | pointTowards goal =>
    let found := resolve goal
    match found.point? with
    | some point =>
      ((actor.setSource found.source).setHeading (Heading.towards position point)).rest
        (found.notes ++ [.pointedTowards goal])
    | none => (actor.setSource found.source).rest found.notes
  | glideToXY seconds x y => actor.glide moment.now seconds ⟨x, y⟩
  | glideTo seconds goal =>
    let found := resolve goal
    match found.point? with
    | some point =>
      let turn := (actor.setSource found.source).glide moment.now seconds point
      { turn with notes := found.notes ++ turn.notes }
    | none =>
      { actor.setSource found.source with slot := none }.rest
        (found.notes ++ if actor.slot.isSome then [Note.glideVanished goal] else [])
  | bounceOnEdge =>
    match Bounce.of? actor.target actor.palette.field with
    | some bounce =>
      let actor := (actor.setHeading bounce.heading).setPosition bounce.position
      { actor.rest [.bounced bounce.edge (Movable.heading actor.target)] with
        edge? := some bounce.edge }
    | none => actor.rest []
  | setRotationStyle name =>
    match RotationStyle.ofName? name with
    | some style =>
      { actor with target := Movable.setRotationStyle actor.target style }.rest [.styleSet style]
    | none => actor.rest [.styleUnknown name]
  | changeX amount =>
    (actor.setPosition (position + ⟨amount, 0.0⟩)).rest [.xChanged amount]
  | setX x => (actor.setPosition { position with x }).rest [.xSet x]
  | changeY amount =>
    (actor.setPosition (position + ⟨0.0, amount⟩)).rest [.yChanged amount]
  | setY y => (actor.setPosition { position with y }).rest [.ySet y]
where
  position : Vec2 α := Movable.position actor.target
  heading : α := Movable.heading actor.target
  resolve (goal : Destination) : Resolved γ α :=
    goal.resolve moment.world actor.palette.field actor.palette.source

end Block

end StageMotion
