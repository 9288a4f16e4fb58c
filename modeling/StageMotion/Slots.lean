import StageMotion.Block

/-!
# Glide slots

The slots of all call sites. A site has an entry exactly while a glide of its own is under way;
whoever runs the program abandons a site that it gives up. There are two ways to run a glide at a
site:

* `Slots.tick` : the store runs one tick of the glide itself;
* `Slots.lend` : a block that glides is lent the slot of the site. Whoever runs it takes the slot
  out of the store, runs the block for one tick, and puts the slot back.
-/

namespace StageMotion

/-- The glides under way, by the call site that drives them. -/
structure Slots (α : Type) where
  glides : Std.ExtTreeMap CallSite (Glide α)

/-- What giving up a site leaves besides the store. -/
structure Abandonment (α : Type) where
  /-- Whether a glide was under way at the site. -/
  wasActive : Bool
  notes : List (Note α)
  deriving DecidableEq, Repr

instance {α : Type} : Coe (Abandonment α) (List (Note α)) := ⟨Abandonment.notes⟩

namespace Slots

variable {γ τ α : Type}

/-- No glide under way. -/
def empty : Slots α := ⟨∅⟩

/-- The glide under way at a site. -/
def get? (slots : Slots α) (site : CallSite) : Option (Glide α) := slots.glides[site]?

/-- Fills the slot of a site, or empties it. -/
def put (slots : Slots α) (site : CallSite) : Option (Glide α) → Slots α
  | some glide => ⟨slots.glides.insert site glide⟩
  | none => ⟨slots.glides.erase site⟩

/-- Takes the slot of a site out, which leaves it empty. -/
def take (slots : Slots α) (site : CallSite) : Option (Glide α) × Slots α :=
  (slots.get? site, slots.put site none)

/-- Whether a glide is under way at a site. -/
def isActive (slots : Slots α) (site : CallSite) : Bool := (slots.get? site).isSome

/-- The number of glides under way. -/
def size (slots : Slots α) : Nat := slots.glides.size

def isEmpty (slots : Slots α) : Bool := slots.glides.isEmpty

/-- Gives up the glide at a site, if there is one, and tells whether there was. -/
def abandon (slots : Slots α) (site : CallSite) : Slots α × Abandonment α :=
  let (slot, rest) := slots.take site
  (rest, ⟨slot.isSome, if slot.isSome then [.glideAbandoned site] else []⟩)

/-- Drops all glides. -/
def clear (_ : Slots α) : Slots α := empty

/-- One tick of the glide at a site. The slot is out of the store meanwhile, and it goes back in
only if it is filled. -/
def tick [Scalar α] [Movable τ α] (slots : Slots α) (site : CallSite) (now seconds : α)
    (stop : Vec2 α) (target : τ) : Slots α × GlideTick τ α :=
  let (slot, rest) := slots.take site
  let ticked := Glide.tick slot now seconds stop target
  match ticked.slot with
  | some glide => (⟨rest.glides.insert site glide⟩, ticked)
  | none => (rest, ticked)

/-- One tick of a block that is lent the slot of a site. -/
def lend [Scalar α] [Draws γ α] [Movable τ α] (slots : Slots α) (site : CallSite)
    (moment : Moment α) (palette : Palette γ α) (target : τ) (block : Block α) :
    Slots α × Turn γ τ α :=
  let (slot, rest) := slots.take site
  let turn := block.tick moment { palette, slot, target }
  (rest.put site turn.slot, turn)

/-! ## The slot of a site -/

theorem ext_get? {s t : Slots α} (h : ∀ site, s.get? site = t.get? site) : s = t := by
  cases s
  cases t
  congr
  exact Std.ExtTreeMap.ext_getElem? h

@[simp] theorem get?_empty (site : CallSite) : (empty : Slots α).get? site = none := by
  simp [empty, get?]

theorem get?_put (slots : Slots α) (site other : CallSite) (slot : Option (Glide α)) :
    (slots.put site slot).get? other = if site = other then slot else slots.get? other := by
  cases slot <;> simp [put, get?, Std.ExtTreeMap.getElem?_insert, Std.ExtTreeMap.getElem?_erase]

theorem get?_tick [Scalar α] [Movable τ α] (slots : Slots α) (site other : CallSite)
    (now seconds : α) (stop : Vec2 α) (target : τ) :
    (slots.tick site now seconds stop target).1.get? other =
      if site = other then (Glide.tick (slots.get? site) now seconds stop target).slot
      else slots.get? other := by
  simp only [tick, take]
  split
  · rename_i glide h
    change ((slots.put site none).put site (some glide)).get? other = _
    rw [h]
    by_cases hother : site = other <;> simp [get?_put, hother]
  · rename_i h
    rw [h, get?_put]

theorem snd_tick [Scalar α] [Movable τ α] (slots : Slots α) (site : CallSite) (now seconds : α)
    (stop : Vec2 α) (target : τ) : (slots.tick site now seconds stop target).2 =
      Glide.tick (slots.get? site) now seconds stop target := by
  simp only [tick, take]
  split <;> rfl

/-! ## Filling a slot

All that tick, lend and abandon do to the store is to fill the slot of their site. -/

theorem put_put (slots : Slots α) (site : CallSite) (slot slot' : Option (Glide α)) :
    (slots.put site slot).put site slot' = slots.put site slot' := by
  apply ext_get?
  intro other
  by_cases h : site = other <;> simp [get?_put, h]

theorem put_get? (slots : Slots α) (site : CallSite) :
    slots.put site (slots.get? site) = slots := by
  apply ext_get?
  intro other
  by_cases h : site = other <;> simp [get?_put, h]

theorem fst_tick [Scalar α] [Movable τ α] (slots : Slots α) (site : CallSite) (now seconds : α)
    (stop : Vec2 α) (target : τ) : (slots.tick site now seconds stop target).1 =
      slots.put site (Glide.tick (slots.get? site) now seconds stop target).slot := by
  apply ext_get?
  intro other
  rw [get?_tick, get?_put]

theorem fst_lend [Scalar α] [Draws γ α] [Movable τ α] (slots : Slots α) (site : CallSite)
    (moment : Moment α) (palette : Palette γ α) (target : τ) (block : Block α) :
    (slots.lend site moment palette target block).1 =
      slots.put site (slots.lend site moment palette target block).2.slot :=
  slots.put_put site none _

theorem fst_abandon (slots : Slots α) (site : CallSite) :
    (slots.abandon site).1 = slots.put site none := rfl

end Slots

end StageMotion
