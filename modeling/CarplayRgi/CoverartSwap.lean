import Mathlib.Data.List.Induction
import Mathlib.Logic.Function.Basic

/-!
# The published cover art

Two files take turns, and a link says which of them is published.  A call writes
the one that its process takes for free and then swaps the link.  The process
counts in memory which file that is, and a restart begins to count anew.
-/

namespace CarplayRgi

namespace Coverart

/-- `coverart_0.png` and `coverart_1.png`. -/
inductive Slot where
  | zero
  | one
  deriving DecidableEq

def Slot.other : Slot → Slot
  | .zero => .one
  | .one => .zero

@[simp]
theorem Slot.other_ne (slot : Slot) : slot.other ≠ slot := by
  cases slot with
  | zero | one => decide

/-- The files with what is in them, and where the links point to. -/
structure Directory where
  file : Slot → Option (List UInt8)
  tmpLink : Option Slot
  link : Option Slot

namespace Directory

def empty : Directory := ⟨fun _ => none, none, none⟩

def setFile (slot : Slot) (content : Option (List UInt8)) (dir : Directory) : Directory :=
  { dir with file := Function.update dir.file slot content }

def setTmpLink (target : Option Slot) (dir : Directory) : Directory :=
  { dir with tmpLink := target }

/-- What a reader of `coverart.png` finds. -/
def published (dir : Directory) : Option (List UInt8) :=
  dir.link.bind dir.file

def unlinkFile (slot : Slot) (unlinks : Bool) (dir : Directory) : Directory :=
  if unlinks then dir.setFile slot none else dir

def unlinkTmpLink (unlinks : Bool) (dir : Directory) : Directory :=
  if unlinks then dir.setTmpLink none else dir

/-- `rename`: the temporary link takes the place of the other one. -/
def renameTmpLink (dir : Directory) : Directory :=
  { dir with link := dir.tmpLink, tmpLink := none }

end Directory

/-- What the system answers to the steps of a call: how many bytes `write` takes,
unless it fails, and how many are kept by a `close` that fails. -/
structure Answers where
  opens : Bool
  written : Option Nat
  keptAtClose : Option Nat
  unlinksNew : Bool
  unlinksTmpLink : Bool
  symlinks : Bool
  renames : Bool
  unlinksTmpLinkAfter : Bool
  unlinksOld : Bool

/-- What the file holds behind `write`, and behind `close`. -/
def stored (data : List UInt8) (answers : Answers) : List UInt8 :=
  data.take (answers.written.getD 0)

def kept (data : List UInt8) (answers : Answers) : List UInt8 :=
  (stored data answers).take (answers.keptAtClose.getD (stored data answers).length)

/-- A call: every state that the directory passes through, the last one, the slot
that is remembered, and the answer. -/
structure CallTrace where
  moments : List Directory
  dir : Directory
  slot : Slot
  ok : Bool

/-- The file grows from nothing to what is stored. -/
def writing (data : List UInt8) (slot : Slot) (dir : Directory) : List Directory :=
  (List.range (data.length + 1)).map fun count => dir.setFile slot (some (data.take count))

def writePngFile (data : List UInt8) (answers : Answers) (slot : Slot) (dir : Directory) :
    CallTrace :=
  let newSlot := slot.other
  if answers.opens = false then ⟨[], dir, slot, false⟩
  else
    let growing := writing (stored data answers) newSlot dir
    let closed := dir.setFile newSlot (some (kept data answers))
    if answers.written ≠ some data.length then
      let cleaned := closed.unlinkFile newSlot answers.unlinksNew
      ⟨growing ++ [closed, cleaned], cleaned, slot, false⟩
    else
      let free := closed.unlinkTmpLink answers.unlinksTmpLink
      if answers.symlinks = false ∨ free.tmpLink.isSome then
        let cleaned := free.unlinkFile newSlot answers.unlinksNew
        ⟨growing ++ [closed, free, cleaned], cleaned, slot, false⟩
      else
        let linked := free.setTmpLink (some newSlot)
        if answers.renames = false then
          let cleaned := linked.unlinkTmpLink answers.unlinksTmpLinkAfter
          ⟨growing ++ [closed, free, linked, cleaned], cleaned, slot, false⟩
        else
          let renamed := linked.renameTmpLink
          let swapped := renamed.unlinkFile slot answers.unlinksOld
          ⟨growing ++ [closed, free, linked, renamed, swapped], swapped, newSlot, true⟩

/-- Up to the swap, only the new file and the temporary link change. -/
structure Aside (slot : Slot) (before after : Directory) : Prop where
  link : after.link = before.link
  file : after.file slot = before.file slot

namespace Aside

variable {slot : Slot} {before after : Directory}

theorem setFile (aside : Aside slot before after) (content : Option (List UInt8)) :
    Aside slot before (after.setFile slot.other content) where
  link := aside.link
  file := (Function.update_of_ne slot.other_ne.symm _ _).trans aside.file

theorem setTmpLink (aside : Aside slot before after) (target : Option Slot) :
    Aside slot before (after.setTmpLink target) where
  link := aside.link
  file := aside.file

theorem unlinkFile (aside : Aside slot before after) (unlinks : Bool) :
    Aside slot before (after.unlinkFile slot.other unlinks) := by
  unfold Directory.unlinkFile
  split_ifs
  · exact aside.setFile none
  · exact aside

theorem unlinkTmpLink (aside : Aside slot before after) (unlinks : Bool) :
    Aside slot before (after.unlinkTmpLink unlinks) := by
  unfold Directory.unlinkTmpLink
  split_ifs
  · exact aside.setTmpLink none
  · exact aside

/-- A reader notices nothing, unless the link points to the new file. -/
theorem published (aside : Aside slot before after) (free : before.link ≠ some slot.other) :
    after.published = before.published := by
  unfold Directory.published
  rw [aside.link]
  cases target : before.link with
  | none => rfl
  | some live =>
      have liveSlot : live = slot := by
        rw [target] at free
        cases live with
        | zero | one =>
            cases slot with
            | zero | one => first | rfl | exact absurd rfl free
      rw [Option.bind_some, Option.bind_some, liveSlot, aside.file]

end Aside

theorem aside_rfl (slot : Slot) (dir : Directory) : Aside slot dir dir :=
  ⟨rfl, rfl⟩

theorem aside_writing {data : List UInt8} {slot : Slot} {dir moment : Directory}
    (member : moment ∈ writing data slot.other dir) : Aside slot dir moment := by
  obtain ⟨count, -, rfl⟩ := List.mem_map.mp member
  exact (aside_rfl slot dir).setFile _

/-- The steps that a call needs have all gone well. -/
def succeeds (data : List UInt8) (answers : Answers) (dir : Directory) : Bool :=
  answers.opens && decide (answers.written = some data.length) && answers.symlinks &&
    (answers.unlinksTmpLink || dir.tmpLink.isNone) && answers.renames

section Call

variable (data : List UInt8) (answers : Answers) (slot : Slot) (dir : Directory)

theorem aside_closed :
    Aside slot dir (dir.setFile slot.other (some (kept data answers))) :=
  (aside_rfl slot dir).setFile _

theorem tmpLink_free :
    ((dir.setFile slot.other (some (kept data answers))).unlinkTmpLink
        answers.unlinksTmpLink).tmpLink.isSome =
      !(answers.unlinksTmpLink || dir.tmpLink.isNone) := by
  unfold Directory.unlinkTmpLink Directory.setFile Directory.setTmpLink
  cases answers.unlinksTmpLink with
  | true => rfl
  | false =>
      cases dir.tmpLink with
      | none | some target => rfl

/-- A call that fails has left the published file alone, and the link. -/
theorem writePngFile_failed (fails : succeeds data answers dir = false) :
    (writePngFile data answers slot dir).ok = false ∧
      (writePngFile data answers slot dir).slot = slot ∧
      Aside slot dir (writePngFile data answers slot dir).dir ∧
      ∀ moment ∈ (writePngFile data answers slot dir).moments, Aside slot dir moment := by
  have closed := aside_closed data answers slot dir
  have free := closed.unlinkTmpLink answers.unlinksTmpLink
  unfold writePngFile
  dsimp only
  split_ifs with opens written linked renames
  · exact ⟨rfl, rfl, aside_rfl slot dir, fun moment member => absurd member (by simp)⟩
  · have cleaned := closed.unlinkFile answers.unlinksNew
    refine ⟨rfl, rfl, cleaned, fun moment member => ?_⟩
    rcases List.mem_append.mp member with growing | late
    · exact aside_writing growing
    · simp only [List.mem_cons, List.not_mem_nil, or_false] at late
      rcases late with rfl | rfl
      · exact closed
      · exact cleaned
  · have cleaned := free.unlinkFile answers.unlinksNew
    refine ⟨rfl, rfl, cleaned, fun moment member => ?_⟩
    rcases List.mem_append.mp member with growing | late
    · exact aside_writing growing
    · simp only [List.mem_cons, List.not_mem_nil, or_false] at late
      rcases late with rfl | rfl | rfl
      · exact closed
      · exact free
      · exact cleaned
  · have link := free.setTmpLink (some slot.other)
    have cleaned := link.unlinkTmpLink answers.unlinksTmpLinkAfter
    refine ⟨rfl, rfl, cleaned, fun moment member => ?_⟩
    rcases List.mem_append.mp member with growing | late
    · exact aside_writing growing
    · simp only [List.mem_cons, List.not_mem_nil, or_false] at late
      rcases late with rfl | rfl | rfl | rfl
      · exact closed
      · exact free
      · exact link
      · exact cleaned
  · have steps : succeeds data answers dir = true := by
      rw [tmpLink_free, not_or, Bool.not_eq_false, Bool.not_eq_true, Bool.not_eq_false'] at linked
      rw [Bool.not_eq_false] at opens renames
      rw [succeeds, opens, not_not.mp written, linked.1, linked.2, renames]
      simp
    rw [fails] at steps
    cases steps

/-- A call that succeeds has swapped the link, and there is no moment between the
file of before and the new one. -/
theorem writePngFile_swapped (success : succeeds data answers dir = true) :
    (writePngFile data answers slot dir).ok = true ∧
      (writePngFile data answers slot dir).slot = slot.other ∧
      (writePngFile data answers slot dir).dir.link = some slot.other ∧
      (writePngFile data answers slot dir).dir.published = some (kept data answers) ∧
      ∀ moment ∈ (writePngFile data answers slot dir).moments,
        Aside slot dir moment ∨ moment.published = some (kept data answers) := by
  simp only [succeeds, Bool.and_eq_true, decide_eq_true_eq] at success
  obtain ⟨⟨⟨⟨opens, written⟩, symlinks⟩, unlinked⟩, renames⟩ := success
  have closed := aside_closed data answers slot dir
  have free := closed.unlinkTmpLink answers.unlinksTmpLink
  have link := free.setTmpLink (some slot.other)
  have noTmpLink : ¬ (answers.symlinks = false ∨
      ((dir.setFile slot.other (some (kept data answers))).unlinkTmpLink
        answers.unlinksTmpLink).tmpLink.isSome = true) := by
    rw [tmpLink_free, unlinked, symlinks]
    decide
  let linked := ((dir.setFile slot.other (some (kept data answers))).unlinkTmpLink
    answers.unlinksTmpLink).setTmpLink (some slot.other)
  have content : linked.file slot.other = some (kept data answers) := by
    change (Directory.unlinkTmpLink _ _).file slot.other = _
    unfold Directory.unlinkTmpLink
    split_ifs
    all_goals exact Function.update_self _ _ _
  have renamed : linked.renameTmpLink.published = some (kept data answers) := content
  have swapped : (linked.renameTmpLink.unlinkFile slot answers.unlinksOld).link =
        some slot.other ∧
      (linked.renameTmpLink.unlinkFile slot answers.unlinksOld).published =
        some (kept data answers) := by
    unfold Directory.unlinkFile
    split_ifs
    · exact ⟨rfl, (Function.update_of_ne slot.other_ne _ _).trans content⟩
    · exact ⟨rfl, renamed⟩
  unfold writePngFile
  dsimp only
  rw [if_neg (by simp [opens]), if_neg (not_not_intro written), if_neg noTmpLink,
    if_neg (by simp [renames])]
  refine ⟨rfl, rfl, swapped.1, swapped.2, fun moment member => ?_⟩
  rcases List.mem_append.mp member with growing | late
  · exact .inl (aside_writing growing)
  · simp only [List.mem_cons, List.not_mem_nil, or_false] at late
    rcases late with rfl | rfl | rfl | rfl | rfl
    · exact .inl closed
    · exact .inl free
    · exact .inl link
    · exact .inr renamed
    · exact .inr swapped.2

/-- There is a moment at which the new file is empty. -/
theorem truncated_member (opens : answers.opens = true) :
    dir.setFile slot.other (some []) ∈ (writePngFile data answers slot dir).moments := by
  have growing : dir.setFile slot.other (some []) ∈
      writing (stored data answers) slot.other dir :=
    List.mem_map.mpr ⟨0, List.mem_range.mpr (Nat.succ_pos _), rfl⟩
  unfold writePngFile
  dsimp only
  rw [if_neg (by simp [opens])]
  split_ifs
  all_goals exact List.mem_append_left _ growing

end Call

/-- An image as it is written: it has a signature at least. -/
structure Png where
  bytes : List UInt8
  nonempty : bytes ≠ []

inductive CoverartEvent where
  | call (png : Png) (answers : Answers)
  | restart

/-- The directory, the slot that the process remembers, and the image of the last
call that has succeeded. -/
structure CoverartState where
  slot : Slot
  dir : Directory
  image : Option (List UInt8)

namespace CoverartState

def initial : CoverartState := ⟨.zero, .empty, none⟩

def traceOf (png : Png) (answers : Answers) (state : CoverartState) : CallTrace :=
  writePngFile png.bytes answers state.slot state.dir

def step : CoverartEvent → CoverartState → CoverartState
  | .call png answers, state =>
      let trace := state.traceOf png answers
      { slot := trace.slot
        dir := trace.dir
        image := if trace.ok then some png.bytes else state.image }
  | .restart, state => { state with slot := .zero }

def after (events : List CoverartEvent) : CoverartState :=
  events.foldl (fun state event => step event state) initial

theorem after_concat (events : List CoverartEvent) (event : CoverartEvent) :
    after (events ++ [event]) = step event (after events) := by
  simp [after]

/-- The image of the last successful call is published. -/
def Shown (state : CoverartState) : Prop :=
  ∀ image, state.image = some image → state.dir.published = some image

/-- From the first image on, a reader finds at every moment of a call the image of
the last successful one or, where this call succeeds, its image, and afterwards
the image of the last successful one again. -/
def Atomic (state : CoverartState) : CoverartEvent → Prop
  | .call png answers =>
      (∀ image, state.image = some image →
        ∀ moment ∈ (state.traceOf png answers).moments,
          moment.published = some image ∨
            ((state.traceOf png answers).ok = true ∧ moment.published = some png.bytes)) ∧
        Shown (step (.call png answers) state)
  | .restart => Shown (step .restart state)

/-- A call does not open the file that is published, and loses nothing at its
`close` where everything else has gone well. -/
def Fits (state : CoverartState) : CoverartEvent → Prop
  | .call png answers =>
      (answers.opens = true → state.dir.link ≠ some state.slot.other) ∧
        (succeeds png.bytes answers state.dir = true → kept png.bytes answers = png.bytes)
  | .restart => True

/-- There is a link only once there is an image. -/
structure Sound (state : CoverartState) : Prop where
  link : state.image = none → state.dir.link = none
  nonempty : ∀ image, state.image = some image → image ≠ []

theorem sound_initial : Sound initial where
  link _ := rfl
  nonempty _ none := by cases none

theorem shown_initial : Shown initial := fun _ none => by cases none

section Step

variable {state : CoverartState}

theorem step_failed {png : Png} {answers : Answers}
    (fails : succeeds png.bytes answers state.dir = false) :
    (step (.call png answers) state).image = state.image ∧
      Aside state.slot state.dir (step (.call png answers) state).dir := by
  obtain ⟨failed, -, aside, -⟩ := writePngFile_failed png.bytes answers state.slot state.dir fails
  refine ⟨?_, aside⟩
  change (if (state.traceOf png answers).ok then _ else _) = _
  rw [traceOf, failed]
  exact if_neg (by simp)

theorem step_swapped {png : Png} {answers : Answers}
    (success : succeeds png.bytes answers state.dir = true) :
    (step (.call png answers) state).image = some png.bytes ∧
      (step (.call png answers) state).dir.published = some (kept png.bytes answers) := by
  obtain ⟨succeeded, -, -, published, -⟩ :=
    writePngFile_swapped png.bytes answers state.slot state.dir success
  refine ⟨?_, published⟩
  change (if (state.traceOf png answers).ok then _ else _) = _
  rw [traceOf, succeeded]
  exact if_pos rfl

theorem Sound.step (sound : Sound state) (event : CoverartEvent) :
    Sound (step event state) := by
  cases event with
  | restart => exact ⟨sound.link, sound.nonempty⟩
  | call png answers =>
      cases success : succeeds png.bytes answers state.dir with
      | false =>
          obtain ⟨image, aside⟩ := step_failed success
          constructor
          · intro none
            rw [aside.link]
            exact sound.link (image ▸ none)
          · intro shown isImage
            exact sound.nonempty shown (image ▸ isImage)
      | true =>
          obtain ⟨image, -⟩ := step_swapped success
          constructor
          · intro none
            rw [image] at none
            cases none
          · intro shown isImage
            rw [image] at isImage
            cases isImage
            exact png.nonempty

/-- A call whose file is free, and whose `close` loses nothing. -/
theorem atomic_of_fits (shown : Shown state) {event : CoverartEvent}
    (fits : state.Fits event) : state.Atomic event := by
  cases event with
  | restart => exact shown
  | call png answers =>
      obtain ⟨free, whole⟩ := fits
      cases opens : answers.opens with
      | false =>
          have nothing : state.traceOf png answers = ⟨[], state.dir, state.slot, false⟩ :=
            if_pos opens
          constructor
          · intro image _ moment member
            rw [nothing] at member
            cases member
          · intro image isImage
            simp only [step, nothing] at isImage ⊢
            exact shown image isImage
      | true =>
          have free := free opens
          cases success : succeeds png.bytes answers state.dir with
          | false =>
              obtain ⟨image, aside⟩ := step_failed success
              obtain ⟨-, -, -, moments⟩ :=
                writePngFile_failed png.bytes answers state.slot state.dir success
              constructor
              · intro before isImage moment member
                exact .inl (((moments moment member).published free).trans (shown before isImage))
              · intro before isImage
                exact (aside.published free).trans (shown before (image ▸ isImage))
          | true =>
              obtain ⟨image, published⟩ := step_swapped success
              obtain ⟨ok, -, -, -, moments⟩ :=
                writePngFile_swapped png.bytes answers state.slot state.dir success
              rw [whole success] at published moments
              constructor
              · intro before isImage moment member
                rcases moments moment member with aside | new
                · exact .inl ((aside.published free).trans (shown before isImage))
                · exact .inr ⟨ok, new⟩
              · intro after isImage
                rw [image] at isImage
                rw [published, isImage]

/-- The file of a call is empty for a moment, and what its `close` loses is
published. -/
theorem fits_of_atomic (sound : Sound state) {event : CoverartEvent}
    (atomic : state.Atomic event) : state.Fits event := by
  cases event with
  | restart => trivial
  | call png answers =>
      obtain ⟨moments, shownAfter⟩ := atomic
      constructor
      · intro opens live
        obtain ⟨image, isImage⟩ : ∃ image, state.image = some image := by
          cases kind : state.image with
          | none =>
              rw [sound.link kind] at live
              cases live
          | some image => exact ⟨image, rfl⟩
        have truncated : (state.dir.setFile state.slot.other (some [])).published = some [] := by
          change state.dir.link.bind _ = some []
          rw [live]
          exact Function.update_self _ _ _
        have found := moments image isImage _
          (truncated_member png.bytes answers state.slot state.dir opens)
        rw [truncated, Option.some.injEq, Option.some.injEq] at found
        rcases found with old | new
        · exact sound.nonempty image isImage old.symm
        · exact png.nonempty new.2.symm
      · intro success
        obtain ⟨image, published⟩ := step_swapped success
        have whole := shownAfter png.bytes image
        rw [published] at whole
        exact Option.some.inj whole

end Step

theorem sound_after (events : List CoverartEvent) : Sound (after events) := by
  induction events using List.reverseRecOn with
  | nil => exact sound_initial
  | append_singleton events event ih => exact after_concat events event ▸ ih.step event

/-- Every event of a run fits where it comes. -/
def RunFits (events : List CoverartEvent) : Prop :=
  ∀ taken event, taken ++ [event] <+: events → (after taken).Fits event

theorem Atomic.shown {state : CoverartState} {event : CoverartEvent}
    (atomic : state.Atomic event) : Shown (step event state) := by
  cases event with
  | call png answers => exact atomic.2
  | restart => exact atomic

theorem shown_of_fits {events : List CoverartEvent} (fits : RunFits events) :
    Shown (after events) := by
  induction events using List.reverseRecOn with
  | nil => exact shown_initial
  | append_singleton events event ih =>
      have shown := ih fun taken later isPrefix =>
        fits taken later (isPrefix.trans (List.prefix_append _ _))
      rw [after_concat]
      exact (atomic_of_fits shown (fits events event List.prefix_rfl)).shown

/-- The swap is atomic throughout a run if and only if no call of it opens the file
that is published, and none loses a part of what it publishes at its `close`. -/
theorem swap_atomic_iff (events : List CoverartEvent) :
    (∀ taken event, taken ++ [event] <+: events → (after taken).Atomic event) ↔
      RunFits events := by
  constructor
  · intro atomic taken event isPrefix
    exact fits_of_atomic (sound_after taken) (atomic taken event isPrefix)
  · intro fits taken event isPrefix
    have fitsTaken : RunFits taken := fun earlier later earlierPrefix =>
      fits earlier later (earlierPrefix.trans ((List.prefix_append _ _).trans isPrefix))
    exact atomic_of_fits (shown_of_fits fitsTaken) (fits taken event isPrefix)

/-- A call in which every step goes well. -/
def goodCall : CoverartEvent :=
  .call ⟨[0x89, 0x50], by decide⟩ ⟨true, some 2, none, true, true, true, true, true, true⟩

/-- A restart behind the first image: the next call empties the file that is
published. -/
theorem restart_truncates :
    ¬ ∀ events taken event, taken ++ [event] <+: events → (after taken).Atomic event := by
  intro atomic
  have fits : (after [goodCall, .restart]).Fits goodCall :=
    fits_of_atomic (sound_after _)
      (atomic [goodCall, .restart, goodCall] [goodCall, .restart] goodCall List.prefix_rfl)
  exact fits.1 rfl rfl

end CoverartState

end Coverart

end CarplayRgi
