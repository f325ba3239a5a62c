import RealmPlan.Counters.Registry

namespace RealmPlan.Counters

-- A count as a scraper reads it off a line. Nothing here knows how the text was written.
structure Sample where
  family : String
  -- The braces and what is in them, if there are any.
  labels : String
  count : String
deriving DecidableEq

namespace Sample

-- The count is behind the last blank, and the labels start at the brace.
def ofLine (line : List Char) : Sample :=
  let series := (line.reverse.dropWhile (· != ' ')).tail.reverse
  let count := (line.reverse.takeWhile (· != ' ')).reverse
  ⟨.ofList (series.takeWhile (· != '\x7b')), .ofList (series.dropWhile (· != '\x7b')), .ofList count⟩

def isRead (line : List Char) : Bool := line.head?.any (· != '#')

def ofText (text : String) : List Sample := ((text.toList.splitOn '\n').filter isRead).map ofLine

theorem ofLine_append {series count : List Char} (unbroken : ' ' ∉ count) :
    ofLine (series ++ ' ' :: count) =
      ⟨.ofList (series.takeWhile (· != '\x7b')), .ofList (series.dropWhile (· != '\x7b')), .ofList count⟩ := by
  have backwards : (series ++ ' ' :: count).reverse = count.reverse ++ ' ' :: series.reverse := by simp
  have inside : ∀ c ∈ count.reverse, (c != ' ') = true := by
    intro c member
    exact bne_iff_ne.mpr fun blank => unbroken (blank ▸ List.mem_reverse.mp member)
  simp [ofLine, backwards, List.takeWhile_append_of_pos inside, List.dropWhile_append_of_pos inside]

end Sample

-- The count of a series in a text, if the text has one.
def scrape (text family labels : String) : Option String :=
  ((Sample.ofText text).find? fun sample => sample.family == family && sample.labels == labels).map (·.count)

-- What a scraper undoes when it reads a label.
def unescape : List Char → List Char
  | '\\' :: 'n' :: rest => '\n' :: unescape rest
  | '\\' :: c :: rest => c :: unescape rest
  | c :: rest => c :: unescape rest
  | [] => []

theorem unescape_labelChar (c : Char) (rest : List Char) : unescape (labelChar c ++ rest) = c :: unescape rest := by
  unfold labelChar
  split
  · simp [unescape]
  · simp [unescape]
  · simp [unescape]
  · rename_i noBackslash _ _
    rw [List.singleton_append, unescape]
    all_goals simp_all

theorem unescape_flatMap (label : List Char) : unescape (label.flatMap labelChar) = label := by
  induction label with
  | nil => rfl
  | cons c rest ih => rw [List.flatMap_cons, unescape_labelChar, ih]

theorem newline_not_mem_labelChar (c : Char) : '\n' ∉ labelChar c := by
  unfold labelChar
  split <;> simp_all [eq_comm]

-- Different words never look the same in braces.
theorem kindLabel_injective {first second : String} (same : kindLabel first = kindLabel second) : first = second := by
  have written := congrArg String.toList same
  simp only [kindLabel, String.toList_append, String.toList_ofList, List.append_assoc, List.append_cancel_left_eq,
    List.append_cancel_right_eq] at written
  have read := congrArg unescape written
  rw [unescape_flatMap, unescape_flatMap] at read
  exact String.toList_injective read

def isTitle (name help : List Char) : Bool :=
  Sample.isRead name && !name.contains '\n' && !name.contains '\x7b' && !help.contains '\n'

theorem isTitle_iff {name help : List Char} : isTitle name help = true ↔
    Sample.isRead name = true ∧ '\n' ∉ name ∧ '\x7b' ∉ name ∧ '\n' ∉ help := by
  simp [isTitle, and_assoc]

-- A literal is unified with its characters here, so that nothing has to be decoded.
theorem isTitle_ofList {name help : List Char} (title : isTitle name help = true) :
    isTitle (String.ofList name).toList (String.ofList help).toList = true := by
  rwa [String.toList_ofList, String.toList_ofList]

structure Family.Plain (family : Family) : Prop where
  title : isTitle family.name.toList family.help.toList = true
  labels : ∀ sample ∈ family.samples,
    '\n' ∉ sample.1.toList ∧ sample.1.toList.head?.all (· == '\x7b') = true

theorem byKind_plain (tally : Tally) : ∀ sample ∈ byKind tally,
    '\n' ∉ sample.1.toList ∧ sample.1.toList.head?.all (· == '\x7b') = true := by
  intro sample member
  obtain ⟨⟨label, count⟩, _, rfl⟩ := List.mem_map.mp member
  simp [kindLabel, newline_not_mem_labelChar]

theorem families_plain (counters : Counters) : ∀ family ∈ families counters, family.Plain := by
  intro family member
  simp only [families, List.mem_cons, List.not_mem_nil, or_false] at member
  rcases member with rfl | rfl | rfl | rfl | rfl
  · exact ⟨isTitle_ofList (by rfl), byKind_plain counters.failed⟩
  · exact ⟨isTitle_ofList (by rfl), byKind_plain counters.executed⟩
  · exact ⟨isTitle_ofList (by rfl), byKind_plain counters.planned⟩
  · exact ⟨isTitle_ofList (by rfl), by simp⟩
  · exact ⟨isTitle_ofList (by rfl), by simp⟩

variable {family : Family}

theorem digits_unbroken (count : Nat) : ∀ c ∈ (toString count).toList, c ≠ ' ' ∧ c ≠ '\n' := by
  intro c member
  rw [Nat.toString_eq_repr, Nat.toList_repr] at member
  have digit := Nat.isDigit_of_mem_toDigits (by decide) (by decide) member
  constructor
  all_goals
    rintro rfl
    cases digit

theorem Family.Plain.opening (plain : family.Plain) (rest : List Char) :
    Sample.isRead (family.name.toList ++ rest) = true := by
  obtain ⟨opening, _⟩ := isTitle_iff.mp plain.title
  cases name : family.name.toList with
  | nil =>
    rw [name] at opening
    cases opening
  | cons first _ =>
    rw [name] at opening
    exact opening

-- The labels start where the name ends.
theorem Family.Plain.series (plain : family.Plain) {labels : List Char}
    (braced : labels.head?.all (· == '\x7b') = true) :
    (family.name.toList ++ labels).takeWhile (· != '\x7b') = family.name.toList ∧
      (family.name.toList ++ labels).dropWhile (· != '\x7b') = labels := by
  obtain ⟨_, _, unbraced, _⟩ := isTitle_iff.mp plain.title
  have inside : ∀ c ∈ family.name.toList, (c != '\x7b') = true := by
    intro c member
    exact bne_iff_ne.mpr fun brace => unbraced (brace ▸ member)
  rw [List.takeWhile_append_of_pos inside, List.dropWhile_append_of_pos inside]
  cases labels with
  | nil => simp
  | cons first rest =>
    have brace : first = '\x7b' := by simpa using braced
    simp [brace]

def Family.sampleLine (family : Family) (sample : String × Nat) : String :=
  family.name ++ sample.1 ++ " " ++ toString sample.2

theorem Family.lines_of_samples (sampled : family.samples ≠ []) : family.lines =
    ("# HELP " ++ family.name ++ " " ++ family.help) :: ("# TYPE " ++ family.name ++ " counter") ::
      family.samples.map family.sampleLine := by
  rw [lines, if_neg (mt List.isEmpty_iff.mp sampled)]
  rfl

theorem Family.lines_of_no_samples (bare : family.samples = []) : family.lines = [] := by
  rw [lines, bare]
  rfl

theorem Family.Plain.ofLine_sample (plain : family.Plain) {sample : String × Nat} (member : sample ∈ family.samples) :
    Sample.ofLine (family.sampleLine sample).toList = ⟨family.name, sample.1, toString sample.2⟩ := by
  obtain ⟨name, labels⟩ := plain.series (plain.labels sample member).2
  have line : (family.sampleLine sample).toList =
      (family.name.toList ++ sample.1.toList) ++ ' ' :: (toString sample.2).toList := by
    simp [sampleLine]
  rw [line, Sample.ofLine_append fun blank => (digits_unbroken sample.2 _ blank).1 rfl, name, labels]
  simp only [String.ofList_toList]

-- The lines of a family, taken one by one, are its samples again.
theorem Family.Plain.read (plain : family.Plain) :
    ((family.lines.map String.toList).filter Sample.isRead).map Sample.ofLine =
      family.samples.map fun sample => ⟨family.name, sample.1, toString sample.2⟩ := by
  by_cases bare : family.samples = []
  · rw [lines_of_no_samples bare, bare]
    rfl
  · have help : ¬ Sample.isRead ("# HELP " ++ family.name ++ " " ++ family.help).toList = true := by
      simp [Sample.isRead]
    have type : ¬ Sample.isRead ("# TYPE " ++ family.name ++ " counter").toList = true := by
      simp [Sample.isRead]
    have samples : ((family.samples.map family.sampleLine).map String.toList).filter Sample.isRead =
        (family.samples.map family.sampleLine).map String.toList := by
      rw [List.filter_eq_self]
      intro line member
      simp only [List.map_map, List.mem_map] at member
      obtain ⟨sample, _, rfl⟩ := member
      simp only [Function.comp_apply, sampleLine, String.toList_append, List.append_assoc]
      exact plain.opening _
    rw [lines_of_samples bare, List.map_cons, List.map_cons, List.filter_cons_of_neg help,
      List.filter_cons_of_neg type, samples, List.map_map, List.map_map]
    exact List.map_congr_left fun sample member => plain.ofLine_sample member

theorem Family.Plain.newline_not_mem_lines (plain : family.Plain) : ∀ line ∈ family.lines, '\n' ∉ line.toList := by
  obtain ⟨_, name, _, help⟩ := isTitle_iff.mp plain.title
  by_cases bare : family.samples = []
  · simp [lines_of_no_samples bare]
  · intro line member
    rw [lines_of_samples bare] at member
    rcases List.mem_cons.mp member with rfl | member
    · simp [name, help]
    · rcases List.mem_cons.mp member with rfl | member
      · simp [name]
      · obtain ⟨sample, here, rfl⟩ := List.mem_map.mp member
        have labels := (plain.labels sample here).1
        have count : '\n' ∉ (toString sample.2).toList := fun newline => (digits_unbroken sample.2 _ newline).2 rfl
        simp only [sampleLine, String.toList_append, List.mem_append, name, labels, count, or_false, or_self, false_or]
        decide

-- Lines that are ended one by one are split again where they end.
theorem splitOn_lines {lines : List String} (whole : ∀ line ∈ lines, '\n' ∉ line.toList) :
    (String.join (lines.map (· ++ "\n"))).toList.splitOn '\n' = lines.map String.toList ++ [[]] := by
  induction lines with
  | nil => rfl
  | cons line rest ih =>
    have here := whole line List.mem_cons_self
    have others := ih fun line member => whole line (List.mem_cons_of_mem _ member)
    have text : (String.join ((line :: rest).map (· ++ "\n"))).toList =
        line.toList ++ '\n' :: (String.join (rest.map (· ++ "\n"))).toList := by
      simp
    rw [text, List.splitOn_append_cons_self, List.splitOn_eq_singleton here, others]
    rfl

-- What is written for the families is read as their samples, and nothing else.
theorem ofText_exposition {families : List Family} (plain : ∀ family ∈ families, family.Plain) :
    Sample.ofText (exposition families) =
      families.flatMap fun family => family.samples.map fun sample => ⟨family.name, sample.1, toString sample.2⟩ := by
  have whole : ∀ line ∈ families.flatMap Family.lines, '\n' ∉ line.toList := by
    intro line member
    obtain ⟨family, member, written⟩ := List.mem_flatMap.mp member
    exact (plain family member).newline_not_mem_lines line written
  rw [Sample.ofText, exposition, splitOn_lines whole, List.filter_append, List.map_append]
  have rest : ([[]].filter Sample.isRead).map Sample.ofLine = [] := rfl
  rw [rest, List.append_nil, List.map_flatMap, List.filter_flatMap, List.map_flatMap]
  rw [List.flatMap_def, List.flatMap_def]
  exact congrArg List.flatten (List.map_congr_left fun family member => (plain family member).read)

theorem lookup_byKind (tally : Tally) (label : String) :
    (byKind tally).lookup (kindLabel label) = Dict.get? tally label := by
  rw [byKind, Dict.get?]
  induction Dict.entries tally with
  | nil => rfl
  | cons entry rest ih =>
    obtain ⟨other, count⟩ := entry
    rw [List.map_cons, Dict.lookup_pair, Dict.lookup_pair, ih]
    by_cases same : label = other
    · simp [same]
    · have different : kindLabel label ≠ kindLabel other := fun alike => same (kindLabel_injective alike)
      simp [same, different]

theorem find?_samples (samples : List (String × Nat)) (family name labels : String) :
    ((samples.map fun sample => (⟨family, sample.1, toString sample.2⟩ : Sample)).find? fun sample =>
      sample.family == name && sample.labels == labels).map (·.count) =
      if family = name then (samples.lookup labels).map toString else none := by
  by_cases own : family = name
  · subst own
    rw [if_pos rfl]
    induction samples with
    | nil => rfl
    | cons sample rest ih =>
      rw [List.map_cons, List.find?_cons, Dict.lookup_pair]
      by_cases same : sample.1 = labels
      · simp [same]
      · have other : (sample.1 == labels) = false := beq_eq_false_iff_ne.mpr same
        rw [if_neg (Ne.symm same), ← ih]
        simp only [other, Bool.and_false]
  · simp [own]

theorem findSome?_named {families : List Family} (read : Family → Option String)
    (distinct : (families.map (·.name)).Nodup) (member : family ∈ families) :
    (families.findSome? fun other => if other.name = family.name then read other else none) = read family := by
  induction families with
  | nil => cases member
  | cons first rest ih =>
    obtain ⟨fresh, others⟩ := List.nodup_cons.mp distinct
    rcases List.mem_cons.mp member with rfl | member
    · have beyond : (rest.findSome? fun other => if other.name = family.name then read other else none) = none := by
        rw [List.findSome?_eq_none_iff]
        intro other member
        exact if_neg fun same => fresh (List.mem_map.mpr ⟨other, member, same⟩)
      rw [List.findSome?_cons, if_pos rfl, beyond]
      cases read family <;> rfl
    · have other : first.name ≠ family.name := fun same => fresh (List.mem_map.mpr ⟨family, member, same.symm⟩)
      rw [List.findSome?_cons, if_neg other]
      exact ih others member

-- What is written of a family is found under its name, as long as no other family has it.
theorem scrape_family {families : List Family} (plain : ∀ family ∈ families, family.Plain)
    (distinct : (families.map (·.name)).Nodup) (member : family ∈ families) (labels : String) :
    scrape (exposition families) family.name labels = (family.samples.lookup labels).map toString := by
  rw [scrape, ofText_exposition plain, List.find?_flatMap, List.map_findSome?,
    ← findSome?_named (fun family => (family.samples.lookup labels).map toString) distinct member]
  congr 1
  funext other
  exact find?_samples other.samples other.name family.name labels

end RealmPlan.Counters
