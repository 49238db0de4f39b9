import Mathlib.Data.List.Basic

/-!
# Parsers of a stream

A parser looks at the front of what has come of a stream, and finds nothing
yet, an output with what is left, or something that it refuses.  What it has
found does not change when more comes.  So a receiver that is given a stream in
pieces finds what is in the whole stream, and the outputs of a stream that has
been written one output after another are those that have been written
completely.
-/

namespace CarplayRgi

/-- What is in front of a stream. -/
inductive Found (Item Output : Type*) where
  | incomplete
  | refused
  | item (output : Output) (rest : List Item)

/-- A parser whose findings stay when the stream grows. -/
structure StreamParser (Item Output : Type*) where
  next : List Item → Found Item Output
  nothing : next [] = .incomplete
  shorter : ∀ {items : List Item} {output : Output} {rest : List Item},
    next items = .item output rest → rest.length < items.length
  keepsItem : ∀ {items : List Item} {output : Output} {rest : List Item},
    next items = .item output rest → ∀ more, next (items ++ more) = .item output (rest ++ more)
  keepsRefusal : ∀ {items : List Item}, next items = .refused →
    ∀ more, next (items ++ more) = .refused

/-- What has come and is not part of an output yet, and whether the receiver
has stopped at something that it refuses. -/
structure StreamReceiver (Item : Type*) where
  waiting : List Item
  stopped : Bool
  deriving DecidableEq

def StreamReceiver.fresh {Item : Type*} : StreamReceiver Item := ⟨[], false⟩

/-- The finding when more comes behind what is left. -/
def Found.before {Item Output : Type*} (more : List Item) : Found Item Output → Found Item Output
  | .incomplete => .incomplete
  | .refused => .refused
  | .item output rest => .item output (rest ++ more)

namespace StreamParser

/-- A parser whose findings stay, an output and a refusal alike. -/
def ofStable {Item Output : Type*} (next : List Item → Found Item Output)
    (nothing : next [] = .incomplete)
    (shorter : ∀ {items : List Item} {output : Output} {rest : List Item},
      next items = .item output rest → rest.length < items.length)
    (stable : ∀ items more, next items ≠ .incomplete →
      next (items ++ more) = (next items).before more) : StreamParser Item Output where
  next := next
  nothing := nothing
  shorter := shorter
  keepsItem := by
    intro items output rest found more
    rw [stable items more (by rw [found]; nofun), found, Found.before]
  keepsRefusal := by
    intro items found more
    rw [stable items more (by rw [found]; nofun), found, Found.before]

variable {Item Output : Type*} (parser : StreamParser Item Output)

/-- The outputs of what has come, and the receiver behind them. -/
def drain (items : List Item) : List Output × StreamReceiver Item :=
  match _found : parser.next items with
  | .incomplete => ([], ⟨items, false⟩)
  | .refused => ([], ⟨[], true⟩)
  | .item output rest =>
      let later := drain rest
      (output :: later.1, later.2)
termination_by items.length
decreasing_by exact parser.shorter _found

/-- A piece of the stream comes. -/
def receive (receiver : StreamReceiver Item) (piece : List Item) :
    List Output × StreamReceiver Item :=
  if receiver.stopped then ([], receiver) else parser.drain (receiver.waiting ++ piece)

def receiveAll : StreamReceiver Item → List (List Item) → List Output × StreamReceiver Item
  | receiver, [] => ([], receiver)
  | receiver, piece :: pieces =>
      let received := parser.receive receiver piece
      let later := receiveAll received.2 pieces
      (received.1 ++ later.1, later.2)

variable {parser}

theorem drain_incomplete {items : List Item} (found : parser.next items = .incomplete) :
    parser.drain items = ([], ⟨items, false⟩) := by
  rw [drain]
  split
  · rfl
  · rename_i refused
    rw [found] at refused
    cases refused
  · rename_i output rest isItem
    rw [found] at isItem
    cases isItem

theorem drain_refused {items : List Item} (found : parser.next items = .refused) :
    parser.drain items = ([], ⟨[], true⟩) := by
  rw [drain]
  split
  · rename_i incomplete
    rw [found] at incomplete
    cases incomplete
  · rfl
  · rename_i output rest isItem
    rw [found] at isItem
    cases isItem

theorem drain_item {items rest : List Item} {output : Output}
    (found : parser.next items = .item output rest) :
    parser.drain items = (output :: (parser.drain rest).1, (parser.drain rest).2) := by
  rw [drain]
  split
  · rename_i incomplete
    rw [found] at incomplete
    cases incomplete
  · rename_i refused
    rw [found] at refused
    cases refused
  · rename_i other left isItem
    rw [found] at isItem
    cases isItem
    rfl

/-- What comes later is found behind what has been found. -/
theorem drain_append (items more : List Item) :
    parser.drain (items ++ more) =
      ((parser.drain items).1 ++ (parser.receive (parser.drain items).2 more).1,
        (parser.receive (parser.drain items).2 more).2) := by
  induction length : items.length using Nat.strongRecOn generalizing items with
  | ind length ih =>
      cases found : parser.next items with
      | incomplete =>
          rw [drain_incomplete found, receive, if_neg Bool.false_ne_true, List.nil_append]
      | refused =>
          rw [drain_refused found, drain_refused (parser.keepsRefusal found more)]
          rfl
      | item output rest =>
          have shorter := parser.shorter found
          rw [drain_item found, drain_item (parser.keepsItem found more),
            ih rest.length (length ▸ shorter) rest rfl]
          rfl

/-- However the stream is cut into pieces, the receiver finds what is in it. -/
theorem receiveAll_eq_drain (pieces : List (List Item)) :
    parser.receiveAll .fresh pieces = parser.drain pieces.flatten := by
  suffices general : ∀ items : List Item,
      parser.drain (items ++ pieces.flatten) =
        ((parser.drain items).1 ++ (parser.receiveAll (parser.drain items).2 pieces).1,
          (parser.receiveAll (parser.drain items).2 pieces).2) by
    rw [← List.nil_append pieces.flatten, general [], drain_incomplete parser.nothing]
    rfl
  induction pieces with
  | nil =>
      intro items
      rw [List.flatten_nil, List.append_nil, receiveAll, List.append_nil]
  | cons piece pieces ih =>
      intro items
      rw [List.flatten_cons, ← List.append_assoc, ih (items ++ piece), drain_append items piece,
        receiveAll, List.append_assoc]

/-- The beginning of a stream that is not refused. -/
theorem drain_prefix {items stream : List Item} (come : items <+: stream)
    (accepted : (parser.drain stream).2.stopped = false) :
    (parser.drain items).1 <+: (parser.drain stream).1 ∧
      (parser.drain items).2.stopped = false := by
  obtain ⟨more, rfl⟩ := come
  rw [drain_append] at accepted ⊢
  refine ⟨List.prefix_append _ _, ?_⟩
  by_contra stopped
  rw [Bool.not_eq_false] at stopped
  rw [receive, if_pos stopped] at accepted
  exact Bool.noConfusion (stopped.symm.trans accepted)

/-- The items are read as the output, whatever comes behind them. -/
def Reads (parser : StreamParser Item Output) (items : List Item) (output : Output) : Prop :=
  ∀ more, parser.next (items ++ more) = .item output more

theorem Reads.next {items : List Item} {output : Output} (reads : parser.Reads items output) :
    parser.next items = .item output [] := by
  simpa using reads []

/-- Of an output that has come in part nothing is found. -/
theorem Reads.incomplete {items part left : List Item} {output : Output}
    (reads : parser.Reads items output) (split : part ++ left = items) (isPart : left ≠ []) :
    parser.next part = .incomplete := by
  have whole := reads.next
  rw [← split] at whole
  cases found : parser.next part with
  | incomplete => rfl
  | refused =>
      rw [parser.keepsRefusal found left] at whole
      cases whole
  | item other rest =>
      rw [parser.keepsItem found left] at whole
      injection whole with _ nothing
      exact absurd (List.append_eq_nil_iff.mp nothing).2 isPart

variable {Source : Type*} {write : Source → List Item} {read : Source → Output}

theorem drain_written {sources : List Source}
    (reads : ∀ source ∈ sources, parser.Reads (write source) (read source)) (rest : List Item) :
    parser.drain (sources.flatMap write ++ rest) =
      (sources.map read ++ (parser.drain rest).1, (parser.drain rest).2) := by
  induction sources with
  | nil => rfl
  | cons source sources ih =>
      obtain ⟨first, others⟩ := List.forall_mem_cons.mp reads
      rw [List.flatMap_cons, List.append_assoc, drain_item (first _), ih others]
      rfl

/-- Of a stream that has been written, the outputs are found and nothing waits. -/
theorem drain_outputs {write : Output → List Item} {outputs : List Output}
    (reads : ∀ output ∈ outputs, parser.Reads (write output) output) :
    parser.drain (outputs.flatMap write) = (outputs, .fresh) := by
  have drained := drain_written reads []
  rw [List.append_nil, drain_incomplete parser.nothing, List.append_nil] at drained
  rw [drained]
  exact Prod.ext (List.map_id outputs) rfl

/-- Behind whole outputs, one that has come in part waits. -/
theorem drain_written_part {sources : List Source} {source : Source} {part left : List Item}
    (reads : ∀ source ∈ sources, parser.Reads (write source) (read source))
    (readsLast : parser.Reads (write source) (read source))
    (split : part ++ left = write source) (isPart : left ≠ []) :
    parser.drain (sources.flatMap write ++ part) = (sources.map read, ⟨part, false⟩) := by
  rw [drain_written reads, drain_incomplete (readsLast.incomplete split isPart), List.append_nil]

end StreamParser

end CarplayRgi
