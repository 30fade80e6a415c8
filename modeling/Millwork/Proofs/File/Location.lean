import Mathlib.Tactic.Common
import Millwork.File.Tree
import Millwork.Proofs.Attempt

namespace Millwork

/-- A name that an entry of a directory can have: one step, which leads on. -/
structure FileTree.IsEntryName (name : String) : Prop where
  nonempty : name ≠ ""
  ne_dot : name ≠ "."
  ne_dots : name ≠ ".."
  slash_not_mem : '/' ∉ name.toList
  zero_not_mem : '\x00' ∉ name.toList
  size_le : name.utf8ByteSize ≤ stepLimit

def FilePlace.steps : FilePlace → List String
  | directory steps | file steps _ | vacant steps => steps

namespace FilePath

/-! ## Joined paths -/

def ofDirectory (directory : String) : String := if directory = "" then "." else directory

def lead (directory : String) : String :=
  if directory.isEmpty || directory.endsWith "/" then directory else directory ++ "/"

theorem lead_cases (directory : String) :
    directory = "" ∧ lead directory = "" ∨
      (∃ outer, directory = outer ++ "/" ∧ lead directory = outer ++ "/") ∨
      directory ≠ "" ∧ lead directory = directory ++ "/" := by
  by_cases empty : directory = ""
  · exact .inl ⟨empty, by simp [lead, empty]⟩
  · refine .inr ?_
    by_cases ends : directory.endsWith "/" = true
    · have suffix := String.Slice.endsWith_string_iff.1 ends
      obtain ⟨outer, eq⟩ : ['/'] <:+ directory.toList := by simpa using suffix
      have split : directory = .ofList outer ++ "/" := String.toList_injective (by simp [eq])
      exact .inl ⟨.ofList outer, split, by rw [lead, ends, Bool.or_true, if_pos rfl, ← split]⟩
    · exact .inr ⟨empty, by simp [lead, empty, ends]⟩

theorem startsWith_of_slash_not_mem {name : String} (clean : '/' ∉ name.toList) :
    ¬ name.startsWith "/" = true := fun starts => by
  obtain ⟨rest, eq⟩ : ['/'] <+: name.toList := by simpa using starts
  exact clean (eq ▸ by simp)

theorem join_of_slash_not_mem (directory : String) {name : String} (clean : '/' ∉ name.toList) :
    join directory name = lead directory ++ name := by
  rw [join, if_neg (startsWith_of_slash_not_mem clean), lead]
  split_ifs <;> rfl

/-! ## The two parts of a joined path -/

section

variable {outer name : List Char}

theorem bne_slash_of_mem_reverse (clean : '/' ∉ name) : ∀ c ∈ name.reverse, (c != '/') = true := by
  intro c inside
  rw [bne_iff_ne]
  rintro rfl
  exact clean (List.mem_reverse.1 inside)

theorem last_append (clean : '/' ∉ name) (ends : outer = [] ∨ ∃ front, outer = front ++ ['/']) :
    last (outer ++ name) = name := by
  rw [last, List.reverse_append, List.takeWhile_append_of_pos (bne_slash_of_mem_reverse clean)]
  rcases ends with rfl | ⟨front, rfl⟩ <;> simp

theorem front_append (clean : '/' ∉ name) (ends : outer = [] ∨ ∃ front, outer = front ++ ['/']) :
    ∃ slashes, outer = front (outer ++ name) ++ List.replicate slashes '/' := by
  have leading : (outer ++ name).reverse.dropWhile (· != '/') = outer.reverse := by
    rw [List.reverse_append, List.dropWhile_append_of_pos (bne_slash_of_mem_reverse clean)]
    rcases ends with rfl | ⟨front, rfl⟩ <;> simp
  simp only [front, leading]
  split_ifs
  · exact ⟨0, by simp⟩
  · refine ⟨(outer.reverse.takeWhile (· == '/')).length, ?_⟩
    have slashes : outer.reverse.takeWhile (· == '/') =
        List.replicate (outer.reverse.takeWhile (· == '/')).length '/' :=
      List.eq_replicate_of_mem fun c inside =>
        by simpa using List.all_eq_true.1 List.all_takeWhile c inside
    rw [← List.reverse_inj, List.reverse_append, List.reverse_reverse, List.reverse_replicate,
      ← slashes, List.takeWhile_append_dropWhile]

end

/-! ## Steps of a joined path -/

theorem steps_append_slash (front back : String) :
    steps (front ++ "/" ++ back) = steps front ++ steps back := by
  simp [steps, List.splitOn_append_cons_self]

theorem steps_of_slash_not_mem {name : String} (clean : '/' ∉ name.toList) :
    steps name = [name] := by
  simp [steps, List.splitOn_eq_singleton clean]

end FilePath

namespace FileTree

variable {tree : FileTree} {name : String}

/-! ## More steps -/

/-- Some steps enter directories, from where more steps go on, or they do not, and then no more
steps lead to a directory or further on. -/
theorem follow_append (tree : FileTree) (entered : List (String × FileNode)) (steps : List String) :
    (∃ inner, tree.follow entered steps = .ok (.directory (follow.stepsTo inner)) ∧
        ∀ more, tree.follow entered (steps ++ more) = tree.follow inner more) ∨
      ∀ more place, tree.follow entered (steps ++ more) = .ok place →
        more.all (·.isEmpty) = true ∧ ∀ outer, place ≠ .directory outer := by
  induction steps generalizing entered with
  | nil => exact .inl ⟨entered, rfl, fun _ => rfl⟩
  | cons step rest ih =>
    simp only [List.cons_append, follow]
    by_cases stays : (step.isEmpty || step == ".") = true
    · simpa only [stays, reduceIte] using ih entered
    by_cases back : (step == "..") = true
    · simpa only [stays, back, reduceIte, Bool.false_eq_true] using ih entered.tail
    by_cases long : stepLimit < step.utf8ByteSize
    · refine .inr fun more place reached => ?_
      simp [stays, back, long] at reached
    simp only [stays, back, long, reduceIte, Bool.false_eq_true]
    rcases found : ((entered.head?.map (·.2)).getD tree.root).entries.lookup step with
      - | (entries | octets) <;> simp only [found]
    · refine .inr fun more place reached => ?_
      split_ifs at reached with idle
      obtain rfl := Except.ok.inj reached
      rw [List.all_append, Bool.and_eq_true] at idle
      exact ⟨idle.2, nofun⟩
    · exact ih _
    · refine .inr fun more place reached => ?_
      split_ifs at reached with final
      obtain rfl := Except.ok.inj reached
      obtain ⟨-, rfl⟩ := List.append_eq_nil_iff.1 (List.isEmpty_iff.1 final)
      exact ⟨rfl, nofun⟩

theorem follow_entry (tree : FileTree) (entry : IsEntryName name)
    (entered : List (String × FileNode)) :
    ∃ place, tree.follow entered [name] = .ok place ∧
      place.steps = follow.stepsTo entered ++ [name] := by
  have leads : ¬ (name.isEmpty || name == ".") = true := by simp [entry.nonempty, entry.ne_dot]
  have forward : ¬ (name == "..") = true := by simp [entry.ne_dots]
  simp only [follow, leads, forward, Nat.not_lt.2 entry.size_le, reduceIte, Bool.false_eq_true]
  rcases found : ((entered.head?.map (·.2)).getD tree.root).entries.lookup name with
    - | (entries | octets) <;> simp only [found]
  · exact ⟨_, rfl, rfl⟩
  · exact ⟨_, rfl, by simp [FilePlace.steps, follow.stepsTo]⟩
  · exact ⟨_, rfl, rfl⟩

theorem follow_append_entry (entry : IsEntryName name) (entered : List (String × FileNode))
    (steps inside : List String) :
    (∃ place, tree.follow entered (steps ++ [name]) = .ok place ∧ place.steps = inside) ↔
      ∃ outer, tree.follow entered steps = .ok (.directory outer) ∧ inside = outer ++ [name] := by
  rcases follow_append tree entered steps with ⟨inner, reached, onward⟩ | never
  · obtain ⟨place, there, eq⟩ := follow_entry tree entry inner
    simp [reached, onward, there, eq, eq_comm]
  · refine iff_of_false (fun ⟨place, there, _⟩ => ?_) (fun ⟨outer, there, _⟩ => ?_)
    · simpa [entry.nonempty] using (never [name] place there).1
    · exact (never [] _ (by simpa using there)).2 outer rfl

theorem follow_append_idle {idle : String} (stays : idle = "" ∨ idle = ".")
    (entered : List (String × FileNode)) (steps outer : List String) :
    tree.follow entered (steps ++ [idle]) = .ok (.directory outer) ↔
      tree.follow entered steps = .ok (.directory outer) := by
  rcases follow_append tree entered steps with ⟨inner, reached, onward⟩ | never
  · rcases stays with rfl | rfl <;> simp [reached, onward, follow]
  · refine iff_of_false (fun there => ?_) fun there => ?_
    · exact (never [idle] _ there).2 outer rfl
    · exact (never [] _ (by simpa using there)).2 outer rfl

/-! ## Joined paths -/

def stepsOf (tree : FileTree) (path : String) : List String :=
  (if path.startsWith "/" then [] else tree.workingDirectory) ++ FilePath.steps path

theorem locate_eq_ok {path : String} {place : FilePlace} :
    tree.locate path = .ok place ↔ '\x00' ∉ path.toList ∧ path ≠ "" ∧
      path.utf8ByteSize < pathLimit ∧ tree.follow [] (tree.stepsOf path) = .ok place := by
  simp only [locate, String.contains_char_eq]
  split_ifs with zero empty long root
  · simp_all
  · simp_all
  · simp [Nat.not_lt.2 long]
  · simp_all [stepsOf, Attempt.mapError_eq_ok]
  · simp_all [stepsOf, Attempt.mapError_eq_ok]

theorem stepsOf_append_slash (tree : FileTree) (front : String) :
    ∃ outer, (∀ back, tree.stepsOf (front ++ "/" ++ back) = outer ++ FilePath.steps back) ∧
      (front ≠ "" → tree.stepsOf front = outer) := by
  have starts (back : String) :
      (front ++ "/" ++ back).startsWith "/" = (front ++ "/").startsWith "/" := by
    rw [Bool.eq_iff_iff]
    cases eq : front.toList <;> simp [eq]
  refine ⟨(if (front ++ "/").startsWith "/" then [] else tree.workingDirectory) ++
    FilePath.steps front, fun back => ?_, fun nonempty => ?_⟩
  · rw [stepsOf, starts, FilePath.steps_append_slash, List.append_assoc]
  · obtain ⟨c, rest, eq⟩ := List.exists_cons_of_ne_nil (mt String.toList_eq_nil_iff.1 nonempty)
    have : front.startsWith "/" = (front ++ "/").startsWith "/" := by
      rw [Bool.eq_iff_iff]
      simp [eq]
    rw [stepsOf, this]

theorem stepsOf_join (tree : FileTree) (entry : IsEntryName name) (directory : String) :
    ∃ steps, tree.stepsOf (FilePath.join directory name) = steps ++ [name] ∧
      ∀ outer, tree.follow [] steps = .ok (.directory outer) ↔
        tree.follow [] (tree.stepsOf (FilePath.ofDirectory directory)) =
          .ok (.directory outer) := by
  have single := FilePath.steps_of_slash_not_mem entry.slash_not_mem
  have relative := FilePath.startsWith_of_slash_not_mem entry.slash_not_mem
  rw [FilePath.join_of_slash_not_mem directory entry.slash_not_mem]
  rcases FilePath.lead_cases directory with ⟨rfl, lead⟩ | ⟨front, rfl, lead⟩ | ⟨nonempty, lead⟩
  · refine ⟨tree.workingDirectory, ?_, fun outer => ?_⟩
    · rw [lead, String.empty_append, stepsOf, if_neg relative, single]
    · have idle : tree.stepsOf (FilePath.ofDirectory "") = tree.workingDirectory ++ ["."] := by
        have dot : '/' ∉ ".".toList := by decide
        rw [FilePath.ofDirectory, if_pos rfl, stepsOf,
          if_neg (FilePath.startsWith_of_slash_not_mem dot), FilePath.steps_of_slash_not_mem dot]
      rw [idle, follow_append_idle (.inr rfl)]
  · obtain ⟨steps, onward, -⟩ := stepsOf_append_slash tree front
    refine ⟨steps, by rw [lead, onward, single], fun outer => ?_⟩
    have idle : tree.stepsOf (front ++ "/") = steps ++ [""] := by
      simpa [FilePath.steps] using onward ""
    rw [FilePath.ofDirectory, if_neg (by simp), idle, follow_append_idle (.inl rfl)]
  · obtain ⟨steps, onward, same⟩ := stepsOf_append_slash tree directory
    refine ⟨steps, by rw [lead, onward, single], fun outer => ?_⟩
    rw [FilePath.ofDirectory, if_neg nonempty, same nonempty]

theorem locate_join (tree : FileTree) (entry : IsEntryName name) (directory : String)
    (inside : List String) :
    (∃ place, tree.locate (FilePath.join directory name) = .ok place ∧ place.steps = inside) ↔
      (FilePath.join directory name).utf8ByteSize < pathLimit ∧
        ∃ outer, tree.locate (FilePath.ofDirectory directory) = .ok (.directory outer) ∧
          inside = outer ++ [name] := by
  obtain ⟨steps, last, same⟩ := stepsOf_join tree entry directory
  have joined := FilePath.join_of_slash_not_mem directory entry.slash_not_mem
  have zero : '\x00' ∈ (FilePath.join directory name).toList ↔
      '\x00' ∈ (FilePath.ofDirectory directory).toList := by
    rcases FilePath.lead_cases directory
      with ⟨rfl, lead⟩ | ⟨front, rfl, lead⟩ | ⟨nonempty, lead⟩ <;>
      simp_all [FilePath.ofDirectory, entry.zero_not_mem]
  have named : FilePath.join directory name ≠ "" := by
    simp [joined, entry.nonempty]
  have outer : FilePath.ofDirectory directory ≠ "" := by
    unfold FilePath.ofDirectory
    split_ifs <;> simp_all
  have shorter : (FilePath.ofDirectory directory).utf8ByteSize ≤
      (FilePath.join directory name).utf8ByteSize := by
    have some : name.utf8ByteSize ≠ 0 := mt String.utf8ByteSize_eq_zero_iff.1 entry.nonempty
    rw [joined, String.utf8ByteSize_append, FilePath.ofDirectory]
    rcases FilePath.lead_cases directory with ⟨rfl, lead⟩ | ⟨front, rfl, lead⟩ | ⟨nonempty, lead⟩
    · have : ".".utf8ByteSize = 1 := by decide
      rw [if_pos rfl]
      omega
    · rw [if_neg (by simp), lead]
      exact Nat.le_add_right ..
    · rw [if_neg nonempty, lead, String.utf8ByteSize_append]
      omega
  simp only [locate_eq_ok, zero, last]
  constructor
  · rintro ⟨place, ⟨clean, -, short, reached⟩, rfl⟩
    obtain ⟨inner, there, eq⟩ := (follow_append_entry entry [] steps _).1 ⟨place, reached, rfl⟩
    exact ⟨short, inner, ⟨clean, outer, Nat.lt_of_le_of_lt shorter short, (same inner).1 there⟩, eq⟩
  · rintro ⟨short, inner, ⟨clean, -, -, there⟩, eq⟩
    obtain ⟨place, reached, steps⟩ :=
      (follow_append_entry entry [] steps inside).2 ⟨inner, (same inner).2 there, eq⟩
    exact ⟨place, ⟨clean, named, short, reached⟩, steps⟩

end FileTree

namespace FilePath

/-- A path that leads to what has some name in a directory. -/
structure LeadsInto (path directory name : String) : Prop where
  isEntryName : FileTree.IsEntryName name
  text : path = directory ++ name ∨ path = directory ++ "/" ++ name
  last : FilePath.last path.toList = name.toList
  /-- The front of the path is the directory, up to slashes at the end. -/
  front : ∃ more less, directory.toList ++ List.replicate more '/' =
    FilePath.front path.toList ++ List.replicate less '/'
  located : ∀ (tree : FileTree) (inside : List String),
    (∃ place, tree.locate path = .ok place ∧ place.steps = inside) ↔
      path.utf8ByteSize < FileTree.pathLimit ∧
        ∃ outer, tree.locate (ofDirectory directory) = .ok (.directory outer) ∧
          inside = outer ++ [name]

theorem leadsInto_join (directory : String) {name : String} (entry : FileTree.IsEntryName name) :
    LeadsInto (join directory name) directory name := by
  have clean := entry.slash_not_mem
  obtain ⟨more, lead_eq, ends⟩ : ∃ more, (lead directory).toList =
      directory.toList ++ List.replicate more '/' ∧
        ((lead directory).toList = [] ∨ ∃ front, (lead directory).toList = front ++ ['/']) := by
    rcases lead_cases directory with ⟨rfl, eq⟩ | ⟨front, rfl, eq⟩ | ⟨-, eq⟩
    · exact ⟨0, by simp [eq], .inl (by simp [eq])⟩
    · exact ⟨0, by simp [eq], .inr ⟨front.toList, by simp [eq]⟩⟩
    · exact ⟨1, by simp [eq], .inr ⟨directory.toList, by simp [eq]⟩⟩
  have text : (join directory name).toList = (lead directory).toList ++ name.toList := by
    rw [join_of_slash_not_mem directory clean, String.toList_append]
  refine ⟨entry, ?_, by rw [text, last_append clean ends], ?_,
    fun tree => FileTree.locate_join tree entry directory⟩
  · rw [join_of_slash_not_mem directory clean, lead]
    split_ifs
    · exact .inl rfl
    · exact .inr rfl
  · obtain ⟨less, front_eq⟩ := front_append clean ends
    exact ⟨more, less, by rw [← lead_eq, text, ← front_eq]⟩

end FilePath

end Millwork
