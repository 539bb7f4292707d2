import NameOwners.CommandLine.Replay
import NameOwners.Proofs.Notification.Reading

/-!
The lines of a text that is replayed. A line matters if it is a notification other
than the end of a listing: blank lines are no notifications
(`Notification.not_isBlankText_of_read`), and the end of a listing changes no index
(`Index.handleAll_filter_isSynced`). So two texts whose lines agree but for idle ones
stand for the same index (`Notification.handleAll_ofLines_congr`).
-/

namespace NameOwners

/-! ### The end of a listing -/

theorem Index.handleAll_filter_isSynced (i : Index) (f : NamespaceFilter)
    (ns : List Notification) :
    i.handleAll f (ns.filter fun n => !n.isSynced) = i.handleAll f ns := by
  induction ns generalizing i with
  | nil => rfl
  | cons n ns ih =>
      cases n with
      | synced => exact ih i
      | added object => exact ih _
      | updated old new => exact ih _
      | deleted object => exact ih _

theorem Index.handleAll_withSynced (i : Index) (f : NamespaceFilter) (ns : List Notification) :
    i.handleAll f (Notification.withSynced ns) = i.handleAll f ns := by
  unfold Notification.withSynced
  split
  · rfl
  · rw [Index.handleAll_append]
    rfl

namespace Notification

/-! ### Blank lines -/

theorem not_isBlankText_of_read {line : String} {n : Notification} (h : read line = .ok n) :
    Text.isBlankText line = false := by
  have hhead {c : Char} (hc : (line.toList.dropWhile Json.Reader.isSpace).head? = some c)
      (hblank : Text.isBlankText line = true) : Text.isBlank c = true :=
    List.all_eq_true.1 hblank c ((List.dropWhile_suffix _).subset (List.mem_of_mem_head? hc))
  obtain ⟨rest, hread, -⟩ := Json.Reader.run_eq_ok_iff.1 h
  refine Bool.eq_false_iff.2 fun hblank => ?_
  rcases exists_written_iff.1 (reader_eq_ok_iff.1 hread) with ⟨hc, -⟩ | ⟨hc, -⟩
  · exact absurd (hhead hc hblank) (by decide)
  · exact absurd (hhead hc hblank) (by decide)

/-! ### Lines that do not matter -/

def lines (text : String) : List String :=
  (Text.splitAt '\n' text.toList).map String.ofList

/-- Whether a line does not matter: it is blank, it is no notification, or it tells the
end of a listing. -/
def isIdleLine (line : String) : Bool :=
  Text.isBlankText line ||
    match read line with
    | .ok n => n.isSynced
    | .error _ => true

theorem ofLines_eq (text : String) :
    ofLines text = (lines text).filterMap fun line => (read line).toOption := by
  rw [ofLines, lines, List.filterMap_map]
  rfl

theorem isIdleLine_of_read {line : String} {n : Notification} (h : read line = .ok n) :
    isIdleLine line = n.isSynced := by
  simp only [isIdleLine, not_isBlankText_of_read h, h, Bool.false_or]

theorem isIdleLine_of_error {line : String} {e : Json.Error} (h : read line = .error e) :
    isIdleLine line = true := by
  simp only [isIdleLine, h, Bool.or_true]

/-- The lines that matter are the notifications that do. -/
theorem filterMap_read_filter_isIdleLine (ls : List String) :
    (ls.filter fun line => !isIdleLine line).filterMap (fun line => (read line).toOption) =
      (ls.filterMap fun line => (read line).toOption).filter fun n => !n.isSynced := by
  induction ls with
  | nil => rfl
  | cons line ls ih =>
      cases h : read line with
      | error e =>
          have hread : (read line).toOption = none := by rw [h]; rfl
          simp [isIdleLine_of_error h, hread, ih]
      | ok n =>
          have hread : (read line).toOption = some n := by rw [h]; rfl
          have hidle := isIdleLine_of_read h
          cases hsynced : n.isSynced with
          | true => simp [hidle, hread, hsynced, ih]
          | false => simp [hidle, hread, hsynced, ih]

/-- Texts whose lines agree but for idle ones stand for the same index. -/
theorem handleAll_ofLines_congr {text text' : String}
    (h : (lines text').filter (fun line => !isIdleLine line) =
      (lines text).filter fun line => !isIdleLine line) (i : Index) (f : NamespaceFilter) :
    i.handleAll f (ofLines text') = i.handleAll f (ofLines text) := by
  have hmatter : (ofLines text').filter (fun n => !n.isSynced) =
      (ofLines text).filter fun n => !n.isSynced := by
    rw [ofLines_eq, ofLines_eq, ← filterMap_read_filter_isIdleLine,
      ← filterMap_read_filter_isIdleLine, h]
  calc
    i.handleAll f (ofLines text') = i.handleAll f ((ofLines text').filter fun n => !n.isSynced) :=
      (i.handleAll_filter_isSynced f _).symm
    _ = i.handleAll f ((ofLines text).filter fun n => !n.isSynced) := by rw [hmatter]
    _ = i.handleAll f (ofLines text) := i.handleAll_filter_isSynced f _

end Notification

end NameOwners
