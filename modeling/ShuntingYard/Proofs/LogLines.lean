import ShuntingYard.CommandLine.Response
import ShuntingYard.Proofs.CleanTexts

/-!
# Lines of a log

A logger that writes lines writes one for each record that passes the threshold, in the order of the
log. Where no line holds a line feed, the lines are found again in the text that they make up.
-/
namespace ShuntingYard

theorem Text.IsClean.lineFeed_notMem {s : String} (h : IsClean s) : '\n' ∉ s.toList :=
  fun hmem => absurd (h _ hmem) (by decide)

namespace CommandLine

variable {β τ : Type}

def unlines (lines : List String) : String := String.join (lines.map (· ++ "\n"))

/-- The records that pass the threshold, with the times of their places in the log. -/
def entries (clock : Nat → τ) (threshold : Option Level) (records : List Record) :
    List (τ × Record) :=
  (records.mapIdx fun i r => (clock i, r)).filter fun entry => entry.2.level.isShown threshold

def entryLine (header : τ → Level → String → String) (entry : τ × Record) : String :=
  header entry.1 entry.2.level entry.2.target ++ entry.2.text

section Lines

theorem unlines_cons (line : String) (lines : List String) :
    unlines (line :: lines) = line ++ "\n" ++ unlines lines := by
  rw [unlines, List.map_cons, String.join_cons]
  rfl

theorem unlines_append (lines lines' : List String) :
    unlines (lines ++ lines') = unlines lines ++ unlines lines' := by
  induction lines with
  | nil => simp [unlines, String.join]
  | cons line lines ih =>
    rw [List.cons_append, unlines_cons, unlines_cons, ih]
    simp only [String.append_assoc]

/-- Lines that hold no line feed are found again between the line feeds, and nothing else is. -/
theorem splitOn_unlines {lines : List String} (h : ∀ line ∈ lines, '\n' ∉ line.toList) :
    (unlines lines).toList.splitOn '\n' = lines.map String.toList ++ [[]] := by
  induction lines with
  | nil => rfl
  | cons line lines ih =>
    obtain ⟨hline, hrest⟩ := List.forall_mem_cons.mp h
    have hcons :
        (unlines (line :: lines)).toList = line.toList ++ '\n' :: (unlines lines).toList := by
      simp [unlines_cons]
    rw [hcons, List.splitOn_append_cons_self_of_not_mem hline, ih hrest]
    rfl

end Lines

section Records

variable {clock : Nat → τ} {threshold : Option Level} {r : Record} {records : List Record}

theorem entries_cons : entries clock threshold (r :: records) =
    (if r.level.isShown threshold then [(clock 0, r)] else []) ++
      entries (fun i => clock (i + 1)) threshold records := by
  rw [entries, List.mapIdx_cons, List.filter_cons]
  split <;> rfl

theorem map_snd_entries : (entries clock threshold records).map Prod.snd =
    records.filter fun r => r.level.isShown threshold := by
  induction records generalizing clock with
  | nil => rfl
  | cons r records ih =>
    rw [entries_cons, List.map_append, ih, List.filter_cons]
    split <;> rfl

theorem mem_of_mem_entries {entry : τ × Record} (h : entry ∈ entries clock threshold records) :
    entry.2 ∈ records := by
  have hmem : entry.2 ∈ (entries clock threshold records).map Prod.snd := List.mem_map_of_mem h
  rw [map_snd_entries] at hmem
  exact (List.mem_filter.mp hmem).1

end Records

namespace Arguments

variable {a : Arguments}

theorem isClean_openingRecord (a : Arguments) : a.openingRecord.IsClean := by
  constructor
  · change Text.IsClean "postfix_translator_cli"
    decide
  · exact Text.isClean_append.mpr ⟨by decide, Text.isClean_quotedString a.expression⟩

theorem isClean_of_mem_run {b : Text.Builder β} {r : Record} (h : r ∈ (a.run b).log) :
    r.IsClean := by
  rcases List.mem_cons.mp h with rfl | h
  · exact a.isClean_openingRecord
  · obtain ⟨e, -, rfl⟩ := List.mem_map.mp h
    exact e.isClean_record

end Arguments

namespace WritesLines

variable {f : Facilities β τ} {header : τ → Level → String → String}

theorem lineFeed_notMem_line (h : WritesLines f.write header) {entry : τ × Record}
    (hclean : entry.2.IsClean) : '\n' ∉ (entryLine header entry).toList := by
  have hheader := h.header entry.1 entry.2.level entry.2.target hclean.1.lineFeed_notMem
  rw [entryLine, String.toList_append, List.mem_append, not_or]
  exact ⟨hheader, hclean.2.lineFeed_notMem⟩

theorem logged_eq (h : WritesLines f.write header) (clock : Nat → τ) (threshold : Option Level)
    {records : List Record} (hclean : ∀ r ∈ records, r.IsClean) :
    f.logged clock threshold records =
      unlines ((entries clock threshold records).map (entryLine header)) := by
  induction records generalizing clock with
  | nil => rfl
  | cons r records ih =>
    obtain ⟨hr, hrest⟩ := List.forall_mem_cons.mp hclean
    have htail := ih (fun i => clock (i + 1)) hrest
    rw [Facilities.logged, List.mapIdx_cons, String.join_cons, entries_cons, List.map_append,
      unlines_append, ← htail]
    congr 1
    cases hshown : r.level.isShown threshold with
    | false => rw [h.hidden _ _ _ hshown, if_neg Bool.false_ne_true]; rfl
    | true =>
      rw [h.shown _ _ _ hshown hr.2.lineFeed_notMem, if_pos rfl, List.map_singleton, unlines_cons]
      simp [unlines, String.join, entryLine]

theorem logged_run (h : WritesLines f.write header) (clock : Nat → τ) (threshold : Option Level)
    (a : Arguments) : f.logged clock threshold (a.run f.builder).log =
      unlines ((entries clock threshold (a.run f.builder).log).map (entryLine header)) :=
  h.logged_eq clock threshold fun _ hr => Arguments.isClean_of_mem_run hr

end WritesLines

end CommandLine

end ShuntingYard
