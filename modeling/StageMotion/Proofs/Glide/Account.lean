import StageMotion.Note.Text
import StageMotion.Proofs.Block.Lookup
import StageMotion.Proofs.Glide.Requests
import StageMotion.Proofs.Glide.Trajectory

/-!
# Accounts of gestures

The journal keeps account of the gestures of a running program. Four kinds of lines tell of them
(`Entry`), and they can be told from all other lines by their words (`Note.marks_text_iff`). What a
tick can do to its slot, and the entry that it makes of it, is said once (`Passes`):

* `Glide.tick_passes`, `Way.tick_passes` : a tick of a slot, and of a glide block, passes;
* `Passes.balance` : what a tick that passes adds to the entries and to its slot is balanced;
* `Request.balance` : so is what a request adds to the journal and to the store;
* `Service.balanced_run` : so is what a run adds up to.

Hence each gesture that was begun has landed, has lost its destination, was abandoned, was cleared
away, or is under way (`gestures_accounted`). Only the gestures that are cleared away leave no line.
-/

namespace StageMotion

/-! ## Entries -/

/-- What a line of the journal can tell of a gesture. -/
inductive Entry
  | started
  | landed
  | vanished
  | abandoned
  deriving DecidableEq, Repr

namespace Entry

/-- The words that the lines of an entry begin and end with. -/
def words : Entry → String × String
  | started => ("glide start ", "")
  | landed => ("glide done ", "")
  | vanished => ("glide target ", " vanished, stopping")
  | abandoned => ("glide at call site ", " abandoned")

/-- The line has the words of the entry. -/
def Marks (entry : Entry) (line : String) : Prop :=
  entry.words.1.toList <+: line.toList ∧ entry.words.2.toList <:+ line.toList

instance (entry : Entry) (line : String) : Decidable (entry.Marks line) := instDecidableAnd

end Entry

variable {γ τ α : Type}

/-- What a note tells of a gesture, if it tells of one. -/
def Note.entry? : Note α → Option Entry
  | glideStarted .. => some .started
  | glideLanded _ => some .landed
  | glideVanished _ => some .vanished
  | glideAbandoned _ => some .abandoned
  | _ => none

namespace Note

/-- No text of a note begins with the opening words of an entry but those of that entry. -/
theorem opening_text_iff (entry : Entry) (note : Note Float) :
    entry.words.1.toList <+: note.text.toList ↔ note.entry? = some entry := by
  cases note <;> cases entry <;> unfold text <;> simp [Entry.words, entry?]

theorem closing_text {entry : Entry} {note : Note Float} (h : note.entry? = some entry) :
    entry.words.2.toList <:+ note.text.toList := by
  cases note with
  | glideStarted | glideLanded =>
    cases h
    exact List.nil_suffix
  | glideVanished | glideAbandoned =>
    cases h
    unfold text
    rw [String.toList_append]
    exact List.suffix_append _ _
  | _ => cases h

/-- The words of a note show what it tells of a gesture. -/
theorem marks_text_iff (entry : Entry) (note : Note Float) :
    entry.Marks note.text ↔ note.entry? = some entry :=
  ⟨fun h => (opening_text_iff entry note).mp h.1,
    fun h => ⟨(opening_text_iff entry note).mpr h, closing_text h⟩⟩

end Note

/-- How often notes make an entry. -/
def tally (entry : Entry) (notes : List (Note α)) : ℕ :=
  (notes.filterMap Note.entry?).count entry

/-- How many gestures notes tell the end of. -/
def ended (notes : List (Note α)) : ℕ :=
  tally .landed notes + tally .vanished notes + tally .abandoned notes

theorem tally_append (entry : Entry) (notes more : List (Note α)) :
    tally entry (notes ++ more) = tally entry notes + tally entry more := by
  rw [tally, List.filterMap_append, List.count_append, tally, tally]

theorem ended_append (notes more : List (Note α)) :
    ended (notes ++ more) = ended notes + ended more := by
  simp only [ended, tally_append]
  omega

/-- The number of lines with the words of an entry. -/
def Entry.lines (entry : Entry) (notes : List (Note Float)) : ℕ :=
  (notes.map Note.text).countP entry.Marks

theorem Entry.lines_eq_tally (entry : Entry) (notes : List (Note Float)) :
    entry.lines notes = tally entry notes := by
  induction notes with
  | nil => rfl
  | cons note notes ih =>
    have hnote := note.marks_text_iff entry
    simp only [lines, tally, List.map_cons, List.countP_cons, List.filterMap_cons] at ih ⊢
    rw [ih]
    cases h : note.entry? with
    | none => simp [hnote, h]
    | some other => simp [hnote, h, List.count_cons]

/-! ## One tick -/

section

variable [Movable τ α]

/-- All that a tick can do to its slot, and the entry that it makes. Whether it found an end to
glide to, and the slot and the target that it was given, come first. -/
inductive Passes (found : Prop) (slot : Option (Glide α)) (target : τ) (left : GlideTick τ α) : Prop
  | idle (before : slot = none) (after : left.slot = none)
    (entries : left.notes.filterMap Note.entry? = [])
  | starts (hfound : found) (before : slot = none) (after : left.slot.isSome)
    (entries : left.notes.filterMap Note.entry? = [.started])
  | goesOn (hfound : found) (before : slot.isSome) (after : left.slot.isSome)
    (entries : left.notes.filterMap Note.entry? = [])
  | lands (hfound : found) (glide : Glide α) (before : slot = some glide) (after : left.slot = none)
    (put : left.target = Movable.setPosition target glide.stop)
    (entries : left.notes.filterMap Note.entry? = [.landed])
  | vanishes (hlost : ¬ found) (before : slot.isSome) (after : left.slot = none)
    (entries : left.notes.filterMap Note.entry? = [.vanished])

theorem Passes.length_entries_le {found : Prop} {slot : Option (Glide α)} {target : τ}
    {left : GlideTick τ α} (passes : Passes found slot target left) :
    (left.notes.filterMap Note.entry?).length ≤ 1 := by
  cases passes with
  | idle _ _ entries | goesOn _ _ _ entries | starts _ _ _ entries => simp [entries]
  | lands _ _ _ _ _ entries | vanishes _ _ _ entries => simp [entries]

/-- What a tick adds to the entries and to its slot is balanced. -/
theorem Passes.balance {found : Prop} {slot : Option (Glide α)} {target : τ} {left : GlideTick τ α}
    (passes : Passes found slot target left) :
    tally .started left.notes + slot.isSome.toNat =
      ended left.notes + left.slot.isSome.toNat := by
  cases passes with
  | idle before after entries => simp [ended, tally, entries, before, after]
  | starts _ before after entries => simp [ended, tally, entries, before, after]
  | goesOn _ before after entries => simp [ended, tally, entries, before, after]
  | lands _ glide before after _ entries => simp [ended, tally, entries, before, after]
  | vanishes _ before after entries => simp [ended, tally, entries, before, after]

variable [Scalar α]

/-- A tick of a slot passes as one that found an end to glide to. -/
theorem Glide.tick_passes {found : Prop} (hfound : found) (slot : Option (Glide α))
    (now seconds : α) (stop : Vec2 α) (target : τ) :
    Passes found slot target (tick slot now seconds stop target) := by
  cases slot with
  | none =>
    by_cases h : seconds ≤ 0.0
    · rw [tick, launch_of_nonpositive h]
      exact .idle rfl rfl rfl
    · rw [tick, launch_of_positive h]
      exact .starts hfound rfl rfl rfl
  | some glide =>
    by_cases h : glide.InTime now
    · rw [tick, proceed_of_inTime h]
      exact .goesOn hfound rfl rfl rfl
    · rw [tick, proceed_of_late h]
      exact .lands hfound glide rfl rfl rfl rfl

variable [Draws γ α]

/-- Where a glide block leads, if it leads anywhere. -/
def Way.point? (way : Way α) (palette : Palette γ α) (world : World α) : Option (Vec2 α) :=
  match way with
  | toXY x y => some ⟨x, y⟩
  | toGoal goal => (palette.lookUp world goal).point?

theorem Way.tick_passes (way : Way α) (seconds : α) (moment : Moment α) (actor : Actor γ τ α) :
    Passes (way.point? actor.palette moment.world).isSome actor.slot actor.target
      ((way.block seconds).tick moment actor).glideTick := by
  cases way with
  | toXY x y => exact Glide.tick_passes rfl actor.slot moment.now seconds ⟨x, y⟩ actor.target
  | toGoal goal =>
    simp only [point?, block]
    cases hpoint : (actor.palette.lookUp moment.world goal).point? with
    | some point =>
      rw [Block.glideTick_glideTo_of_found seconds hpoint]
      exact Glide.tick_passes rfl actor.slot moment.now seconds point actor.target
    | none =>
      obtain ⟨name, rfl, hlost⟩ := Palette.exists_lost hpoint
      rw [Block.glideTo_of_lost seconds hlost]
      cases hslot : actor.slot with
      | none => exact .idle rfl rfl rfl
      | some glide => exact .vanishes (by simp) rfl rfl rfl

end

/-! ## The size of a store -/

namespace Slots

theorem size_put_some (slots : Slots α) (site : CallSite) (glide : Glide α) :
    (slots.put site (some glide)).size + (slots.get? site).isSome.toNat = slots.size + 1 := by
  have hcontains : slots.glides.contains site = (slots.get? site).isSome :=
    Std.ExtTreeMap.contains_eq_isSome_getElem?
  have hsize : (slots.put site (some glide)).size =
      if (slots.get? site).isSome then slots.size else slots.size + 1 := by
    rw [← hcontains]
    exact Std.ExtTreeMap.size_insert
  cases hslot : slots.get? site <;> simp [hsize, hslot]

/-- Filling or emptying a slot changes the size of the store as it changes the slot. -/
theorem size_put (slots : Slots α) (site : CallSite) (slot : Option (Glide α)) :
    (slots.put site slot).size + (slots.get? site).isSome.toNat =
      slots.size + slot.isSome.toNat := by
  cases slot with
  | some glide => exact slots.size_put_some site glide
  | none =>
    -- the old glide could be put back
    have hback := slots.put_put site none (slots.get? site)
    rw [slots.put_get?] at hback
    cases hslot : slots.get? site with
    | none =>
      rw [hslot, slots.put_put] at hback
      rw [hback]
    | some old =>
      have hsize := (slots.put site none).size_put_some site old
      rw [hslot] at hback
      rw [hback, get?_put, if_pos rfl] at hsize
      exact hsize.symm

end Slots

/-! ## One request -/

/-- A tick of the slot of a site adds to the entries what it adds to the store. -/
theorem Passes.balance_put [Movable τ α] {found : Prop} {slots : Slots α} {site : CallSite}
    {target : τ} {left : GlideTick τ α} (passes : Passes found (slots.get? site) target left) :
    tally .started left.notes + slots.size =
      ended left.notes + (slots.put site left.slot).size := by
  have hbalance := passes.balance
  have hsize := slots.size_put site left.slot
  omega

variable [Scalar α]

namespace Request

/-- What a request adds to the journal and to the store is balanced. -/
theorem balance (slots : Slots α) (request : Request α) :
    tally .started (request.serve slots).notes + slots.size =
      ended (request.serve slots).notes + request.cleared slots +
        (request.serve slots).slots.size := by
  cases request with
  | tick site now seconds stop target =>
    have passes := Glide.tick_passes trivial (slots.get? site) now seconds stop target
    simp only [cleared, serve, Slots.snd_tick, Slots.fst_tick]
    exact passes.balance_put
  | lend site moment palette target way seconds =>
    have passes := way.tick_passes seconds moment { palette, slot := slots.get? site, target }
    simp only [cleared, serve, Slots.fst_lend]
    exact passes.balance_put
  | abandon site =>
    have hsize := slots.size_put site none
    cases hslot : slots.get? site <;>
      simp [cleared, serve, Slots.abandon, Slots.take, hslot, tally, ended, Note.entry?]
        at hsize ⊢ <;>
      omega
  | clear =>
    have hsize : slots.clear.size = 0 := rfl
    simp [cleared, serve, hsize, tally, ended]

end Request

/-! ## Runs -/

namespace Service

/-- The gestures that were begun are over or under way. -/
def Balanced (service : Service α) : Prop :=
  tally .started service.journal = ended service.journal + service.cleared + service.slots.size

theorem Balanced.serve {service : Service α} (balanced : service.Balanced) (request : Request α) :
    (service.serve request).Balanced := by
  have hrequest := request.balance service.slots
  simp only [Balanced, Service.serve, tally_append, ended_append] at balanced ⊢
  omega

theorem balanced_run (requests : List (Request α)) : (run requests).Balanced :=
  run_induction (P := Balanced) rfl (fun _ request balanced => balanced.serve request) requests

end Service

/-! ## Lines -/

/-- The lines of a tick tell what it did to its slot. Whether the tick found an end to glide to, and
the slot and the target that it was given, come first. -/
structure Tells {τ : Type} [Movable τ Float] (found : Prop) (slot : Option (Glide Float))
    (target : τ) (left : GlideTick τ Float) : Prop where
  once (entry : Entry) : entry.lines left.notes ≤ 1
  started : Entry.started.lines left.notes = 1 ↔ slot = none ∧ left.slot.isSome
  landed : Entry.landed.lines left.notes = 1 ↔ ∃ glide, slot = some glide ∧ found ∧
    left.slot = none ∧ left.target = Movable.setPosition target glide.stop
  vanished : Entry.vanished.lines left.notes = 1 ↔ slot.isSome ∧ ¬ found ∧ left.slot = none

theorem Passes.tells {τ : Type} [Movable τ Float] {found : Prop} {slot : Option (Glide Float)}
    {target : τ} {left : GlideTick τ Float} (passes : Passes found slot target left) :
    Tells found slot target left := by
  have hlines (entry : Entry) : entry.lines left.notes = _ := entry.lines_eq_tally left.notes
  have honce (entry : Entry) : entry.lines left.notes ≤ 1 := by
    rw [hlines]
    exact List.count_le_length.trans passes.length_entries_le
  simp only [tally] at hlines
  cases passes with
  | idle before after entries =>
    rw [entries] at hlines
    constructor <;> simp [hlines, before, after]
  | starts hfound before after entries =>
    rw [entries] at hlines
    have hafter : left.slot ≠ none := Option.isSome_iff_ne_none.mp after
    refine ⟨honce, ?_, ?_, ?_⟩ <;> simp [hlines, before, after]
  | goesOn hfound before after entries =>
    rw [entries] at hlines
    have hbefore : slot ≠ none := Option.isSome_iff_ne_none.mp before
    have hafter : left.slot ≠ none := Option.isSome_iff_ne_none.mp after
    refine ⟨honce, ?_, ?_, ?_⟩ <;> simp [hlines, hbefore, hafter]
  | lands hfound glide before after put entries =>
    rw [entries] at hlines
    refine ⟨honce, ?_, ?_, ?_⟩ <;> simp [hlines, before, after, hfound, put]
  | vanishes hlost before after entries =>
    rw [entries] at hlines
    have hbefore : slot ≠ none := Option.isSome_iff_ne_none.mp before
    refine ⟨honce, ?_, ?_, ?_⟩ <;> simp [hlines, before, hbefore, after, hlost]

/-- **Gestures are accounted for**: after every run of requests, the lines that tell the start of a
gesture are as many as those that tell its end, of any of the three kinds, the gestures that were
cleared away and those under way together. Each tick leaves one such line at the most: of a start
exactly if it fills an empty slot, of a landing exactly if it puts the target at the end that its
slot captured, and of a lost destination exactly if it drops a gesture because it finds no end. -/
theorem gestures_accounted :
    (∀ requests : List (Request Float),
      let service := Service.run requests
      Entry.started.lines service.journal =
        Entry.landed.lines service.journal + Entry.vanished.lines service.journal +
          Entry.abandoned.lines service.journal + service.cleared + service.slots.size) ∧
    (∀ {τ : Type} [Movable τ Float] (slots : Slots Float) (site : CallSite) (now seconds : Float)
      (stop : Vec2 Float) (target : τ),
      let after := slots.tick site now seconds stop target
      Tells True (slots.get? site) target { after.2 with slot := after.1.get? site }) ∧
    ∀ {γ τ : Type} [Draws γ Float] [Movable τ Float] (slots : Slots Float) (site : CallSite)
      (moment : Moment Float) (palette : Palette γ Float) (target : τ) (way : Way Float)
      (seconds : Float),
      let after := slots.lend site moment palette target (way.block seconds)
      Tells (way.point? palette moment.world).isSome (slots.get? site) target
        { after.2.glideTick with slot := after.1.get? site } := by
  refine ⟨fun requests => ?_, ?_, ?_⟩
  · have balanced := Service.balanced_run requests
    simp only [Entry.lines_eq_tally]
    exact balanced
  · intro τ _ slots site now seconds stop target after
    have hslot : after.1.get? site = _ := slots.get?_tick site site now seconds stop target
    have hafter : after.2 = _ := slots.snd_tick site now seconds stop target
    rw [hslot, if_pos rfl, hafter]
    exact (Glide.tick_passes trivial (slots.get? site) now seconds stop target).tells
  · intro γ τ _ _ slots site moment palette target way seconds after
    have hslots : after.1 = slots.put site after.2.slot :=
      slots.fst_lend site moment palette target (way.block seconds)
    rw [hslots, Slots.get?_put, if_pos rfl]
    exact (way.tick_passes seconds moment { palette, slot := slots.get? site, target }).tells

/-- Of four gestures one lands, one loses the dog it follows, one is abandoned and one is cleared
away. A glide that takes no time and an idle site leave no line. -/
example :
    let cat : Sprite Float := .create "cat" none .standard
    let palette : Palette (ℕ → Float) Float := ⟨.standard, fun _ => 0.0⟩
    let tick (site : UInt64) (now seconds : Float) : Request Float :=
      .tick ⟨site⟩ now seconds ⟨60.0, -20.0⟩ cat
    let follow (dog : Option (Vec2 Float)) : Request Float :=
      .lend ⟨4⟩ ⟨⟨⟨0.0, 0.0⟩, fun _ => dog⟩, 40.0⟩ palette cat (.toGoal (.named "dog")) 1.0
    let service := Service.run
      [tick 1 0.0 1.0, tick 2 10.0 1.0, tick 3 20.0 0.0, follow (some ⟨5.0, 5.0⟩), follow none,
        tick 5 30.0 1.0, tick 1 1000.0 1.0, .abandon ⟨2⟩, .abandon ⟨3⟩, .clear]
    [Entry.started, .landed, .vanished, .abandoned].map (·.lines service.journal) = [4, 1, 1, 1] ∧
      service.cleared = 1 ∧ service.slots.size = 0 := by
  decide +kernel

end StageMotion
