import Tether.Launch
import Tether.Options.Check
import Tether.Proofs.Namespace.Address

/-! # Reading the command line of the server side

A command line is read word by word. It names the server side twice and carries flags with a value
of one word each; what is left are the arguments. What was written is read back exactly if no word
of it holds a blank and the arguments do not begin like a flag that could still follow.
-/

namespace Tether.Launch

structure Invocation where
  bin : List Char
  port : Option (List Char)
  mountopts : List Char
  msize : List Char
  args : List Char
  deriving DecidableEq

def takeFlag (name : List Char) : List (List Char) → Option (List Char) × List (List Char)
  | w :: v :: ws => if w = name then (some v, ws) else (none, w :: v :: ws)
  | ws => (none, ws)

def readFlags (bin : List Char) (ws : List (List Char)) : Invocation :=
  let (port, ws) := takeFlag "-port9p".toList ws
  let (mountopts, ws) := takeFlag "-mountopts".toList ws
  let (msize, ws) := takeFlag "-msize".toList ws
  { bin, port, mountopts := mountopts.getD []
    msize := msize.getD (toString Options.defaultMsize).toList
    args := [' '].intercalate ws }

def read? (line : String) : Option Invocation :=
  match line.toList.splitOn ' ' with
  | bin :: remote :: again :: bin' :: ws =>
    if remote = "-remote".toList ∧ again = "-bin".toList ∧ bin' = bin then some (readFlags bin ws)
    else none
  | _ => none

def invocation (o : ClientOptions) (args : String) (port : Option String) : Invocation where
  bin := o.bin.toList
  port := port.map String.toList
  mountopts := o.mountopts.toList
  msize := (toString o.msize).toList
  args := args.toList

def BeginsLike (name : String) (args : String) : Prop := name.toList ++ [' '] <+: args.toList

instance (name args : String) : Decidable (BeginsLike name args) :=
  inferInstanceAs (Decidable (name.toList ++ [' '] <+: args.toList))

/-- Nothing in a command line can be taken for something else: what is to be one word is one, and
a flag that is not written does not open the arguments where it could still follow. -/
structure IsReadable (o : ClientOptions) (args : String) (port : Option String) : Prop where
  oneWord : ∀ w ∈ o.bin :: o.mountopts :: port.toList, ' ' ∉ w.toList
  noMsize : o.msize = Options.defaultMsize → ¬ BeginsLike "-msize" args
  noMountopts : o.msize = Options.defaultMsize → o.mountopts = "" → ¬ BeginsLike "-mountopts" args
  noPort : o.msize = Options.defaultMsize → o.mountopts = "" → port = none →
    ¬ BeginsLike "-port9p" args

/-! ### Words -/

section

variable {name w : List Char} {ws : List (List Char)} {cs t : List Char}

theorem not_mem_of_mem_splitOn {c : Char} (h : w ∈ cs.splitOn c) : c ∉ w := by
  induction cs generalizing w with
  | nil =>
    obtain rfl : w = [] := by simpa using h
    exact List.not_mem_nil
  | cons d cs ih =>
    rw [List.splitOn_cons_eq_if_modifyHead] at h
    obtain ⟨v, vs, hsplit⟩ := List.exists_cons_of_ne_nil (List.splitOn_ne_nil c cs)
    rw [hsplit] at h ih
    split at h
    · rcases List.mem_cons.mp h with rfl | h
      · exact List.not_mem_nil
      · exact ih h
    case isFalse hd =>
      rcases List.mem_cons.mp h with rfl | h
      · have hv := ih List.mem_cons_self
        have hne : c ≠ d := fun e => hd (by simp [e])
        simp [hne, hv]
      · exact ih (List.mem_cons_of_mem v h)

/-- Words without blanks are found again in front of any text. -/
theorem splitOn_intercalate_concat (h : ∀ w ∈ ws, ' ' ∉ w) (t : List Char) :
    ([' '].intercalate (ws ++ [t])).splitOn ' ' = ws ++ t.splitOn ' ' := by
  induction ws with
  | nil => simp
  | cons w ws ih =>
    rw [List.cons_append, List.intercalate_cons_of_ne_nil (by simp), List.append_assoc,
      List.singleton_append, List.splitOn_append_cons_self_of_not_mem (h w List.mem_cons_self),
      ih fun v hv => h v (List.mem_cons_of_mem w hv), List.cons_append]

/-- A text begins with a word and a blank if that word is the first of several. -/
theorem prefix_iff_splitOn (hname : ' ' ∉ name) :
    name ++ [' '] <+: t ↔ ∃ v vs, t.splitOn ' ' = name :: v :: vs := by
  constructor
  · rintro ⟨r, rfl⟩
    obtain ⟨v, vs, hr⟩ := List.exists_cons_of_ne_nil (List.splitOn_ne_nil ' ' r)
    refine ⟨v, vs, ?_⟩
    rw [List.append_assoc, List.singleton_append,
      List.splitOn_append_cons_self_of_not_mem hname, hr]
  · rintro ⟨v, vs, ht⟩
    have hjoin : [' '].intercalate (t.splitOn ' ') = t := List.intercalate_splitOn ' '
    rw [ht, List.intercalate_cons_cons] at hjoin
    exact ⟨[' '].intercalate (v :: vs), hjoin⟩

/-! ### Flags -/

def written (name : List Char) (value : Option (List Char)) : List (List Char) :=
  value.elim [] fun v => [name, v]

def Opens (name : List Char) (ws : List (List Char)) : Prop := ∃ v vs, ws = name :: v :: vs

theorem not_mem_written {value : Option (List Char)} (hname : ' ' ∉ name)
    (h : ∀ v ∈ value, ' ' ∉ v) : ∀ w ∈ written name value, ' ' ∉ w := by
  cases value with
  | none => simp [written]
  | some v => simpa [written, hname] using h

theorem takeFlag_of_not_opens (h : ¬ Opens name ws) : takeFlag name ws = (none, ws) := by
  unfold takeFlag
  split
  case h_1 w v vs =>
    rw [if_neg]
    rintro rfl
    exact h ⟨v, vs, rfl⟩
  case h_2 => rfl

theorem takeFlag_written (value : Option (List Char)) (h : value = none → ¬ Opens name ws) :
    takeFlag name (written name value ++ ws) = (value, ws) := by
  cases value with
  | none => exact takeFlag_of_not_opens (h rfl)
  | some v => simp [takeFlag, written]

theorem opens_written_iff {other : List Char} (hne : name ≠ other) (value : Option (List Char)) :
    Opens name (written other value ++ ws) ↔ value = none ∧ Opens name ws := by
  cases value with
  | none => simp [written]
  | some v => simp [Opens, written, hne.symm]

theorem takeFlag_subset (name : List Char) (ws : List (List Char)) :
    (∀ v ∈ (takeFlag name ws).1, v ∈ ws) ∧ (takeFlag name ws).2 ⊆ ws := by
  unfold takeFlag
  split
  case h_1 => split <;> simp
  case h_2 => simp

theorem length_takeFlag (name : List Char) (ws : List (List Char)) :
    ([' '].intercalate (takeFlag name ws).2).length ≤ ([' '].intercalate ws).length ∧
      (Opens name ws →
        ([' '].intercalate (takeFlag name ws).2).length < ([' '].intercalate ws).length) := by
  by_cases h : Opens name ws
  · obtain ⟨v, vs, rfl⟩ := h
    have hshorter : ([' '].intercalate vs).length ≤ ([' '].intercalate (v :: vs)).length := by
      cases vs with
      | nil => simp
      | cons u us =>
        rw [List.intercalate_cons_cons, List.length_append, List.length_append]
        omega
    have hlt : ([' '].intercalate (takeFlag name (name :: v :: vs)).2).length <
        ([' '].intercalate (name :: v :: vs)).length := by
      rw [takeFlag, if_pos rfl, List.intercalate_cons_cons]
      simp only [List.length_append, List.length_singleton]
      omega
    exact ⟨hlt.le, fun _ => hlt⟩
  · rw [takeFlag_of_not_opens h]
    exact ⟨le_rfl, fun h' => absurd h' h⟩

end

/-! ### Command lines -/

section

variable {o : ClientOptions} {args : String} {port : Option String}

def argWords (args : String) : List (List Char) := if args = "" then [] else args.toList.splitOn ' '

theorem intercalate_argWords (args : String) : [' '].intercalate (argWords args) = args.toList := by
  unfold argWords
  split
  case isTrue h => simp [h]
  case isFalse => exact List.intercalate_splitOn ' '

theorem opens_argWords_iff {name : String} (hname : ' ' ∉ name.toList) :
    Opens name.toList (argWords args) ↔ BeginsLike name args := by
  rw [BeginsLike, prefix_iff_splitOn hname, Opens, argWords]
  split
  case isTrue h => simp [h]
  case isFalse => rfl

def mountoptsOf (o : ClientOptions) : Option (List Char) :=
  if o.mountopts = "" then none else some o.mountopts.toList

def msizeOf (o : ClientOptions) : Option (List Char) :=
  if o.msize = Options.defaultMsize then none else some (toString o.msize).toList

theorem toString_injective {m n : Nat} (h : (toString m).toList = (toString n).toList) : m = n := by
  rw [Tunnel.toList_toString, Tunnel.toList_toString] at h
  rw [← Nat.ofDigitChars_toDigits (b := 10) (n := m) (by decide) (by decide), h,
    Nat.ofDigitChars_toDigits (by decide) (by decide)]

theorem blank_not_mem_toString (n : Nat) : ' ' ∉ (toString n).toList := fun h =>
  absurd (Tunnel.isDigit_of_mem_toString h) (by decide)

def leading (o : ClientOptions) (port : Option String) : List (List Char) :=
  [o.bin.toList, "-remote".toList, "-bin".toList, o.bin.toList] ++
    written "-port9p".toList (port.map String.toList) ++
    written "-mountopts".toList (mountoptsOf o) ++ written "-msize".toList (msizeOf o)

theorem map_flag (name : String) (value : Option String) :
    (flag name value).map String.toList = written name.toList (value.map String.toList) := by
  cases value <;> rfl

theorem toList_command (o : ClientOptions) (args : String) (port : Option String) :
    (command o args port).toList = [' '].intercalate (leading o port ++
      if args = "" then [] else [args.toList]) := by
  have hmountopts : (if o.mountopts = "" then none else some o.mountopts).map String.toList =
      mountoptsOf o := by
    unfold mountoptsOf
    split <;> rfl
  have hmsize : (if o.msize = Options.defaultMsize then none else some s!"{o.msize}").map
      String.toList = msizeOf o := by
    unfold msizeOf
    split <;> simp
  have hargs : (if args = "" then [] else [args]).map String.toList =
      if args = "" then [] else [args.toList] := by
    split <;> rfl
  rw [command, String.toList_intercalate, words]
  simp only [List.map_append, map_flag, hmountopts, hmsize, hargs]
  rfl

theorem splitOn_command (h : ∀ w ∈ o.bin :: o.mountopts :: port.toList, ' ' ∉ w.toList) :
    (command o args port).toList.splitOn ' ' = leading o port ++ argWords args := by
  have hleading : ∀ w ∈ leading o port, ' ' ∉ w := by
    simp only [List.forall_mem_cons, Option.mem_toList] at h
    obtain ⟨hbin, hmountopts, hport⟩ := h
    simp only [leading, List.forall_mem_append, List.forall_mem_cons]
    refine ⟨⟨⟨⟨hbin, by decide, by decide, hbin, by simp⟩, ?_⟩, ?_⟩, ?_⟩
    · refine not_mem_written (by decide) fun v hv => ?_
      obtain ⟨p, hp, rfl⟩ := Option.map_eq_some_iff.mp hv
      exact hport p hp
    · refine not_mem_written (by decide) fun v hv => ?_
      obtain ⟨-, rfl⟩ : _ ∧ o.mountopts.toList = v := by simpa [mountoptsOf] using hv
      exact hmountopts
    · refine not_mem_written (by decide) fun v hv => ?_
      obtain ⟨-, rfl⟩ : _ ∧ (toString o.msize).toList = v := by simpa [msizeOf] using hv
      exact blank_not_mem_toString o.msize
  rw [toList_command, argWords]
  split
  case isTrue =>
    rw [List.append_nil, List.splitOn_intercalate ' ' hleading (by simp [leading])]
  case isFalse => exact splitOn_intercalate_concat hleading _

def afterMountopts (o : ClientOptions) (args : String) : List (List Char) :=
  written "-msize".toList (msizeOf o) ++ argWords args

def afterPort (o : ClientOptions) (args : String) : List (List Char) :=
  written "-mountopts".toList (mountoptsOf o) ++ afterMountopts o args

theorem read?_command (h : ∀ w ∈ o.bin :: o.mountopts :: port.toList, ' ' ∉ w.toList) :
    read? (command o args port) = some (readFlags o.bin.toList
      (written "-port9p".toList (port.map String.toList) ++ afterPort o args)) := by
  rw [read?, splitOn_command h, leading]
  simp [afterPort, afterMountopts]

theorem oneWord_of_read? {line : String} {i : Invocation} (h : read? line = some i) :
    ' ' ∉ i.bin ∧ ' ' ∉ i.mountopts ∧ ∀ p ∈ i.port, ' ' ∉ p := by
  rw [read?] at h
  split at h
  case h_2 => cases h
  case h_1 bin remote again bin' ws hsplit =>
    split at h
    case isFalse => cases h
    case isTrue =>
      cases h
      have hword {w : List Char} (hw : w ∈ bin :: remote :: again :: bin' :: ws) : ' ' ∉ w :=
        not_mem_of_mem_splitOn (hsplit ▸ hw)
      have hflag {w : List Char} (hw : w ∈ ws) : ' ' ∉ w := hword (by simp [hw])
      obtain ⟨hport, hrest⟩ := takeFlag_subset "-port9p".toList ws
      obtain ⟨hmountopts, -⟩ :=
        takeFlag_subset "-mountopts".toList (takeFlag "-port9p".toList ws).2
      refine ⟨hword List.mem_cons_self, ?_, fun p hp => hflag (hport p hp)⟩
      show ' ' ∉ (takeFlag "-mountopts".toList (takeFlag "-port9p".toList ws).2).1.getD []
      cases htaken : (takeFlag "-mountopts".toList (takeFlag "-port9p".toList ws).2).1 with
      | none => exact List.not_mem_nil
      | some v => exact hflag (hrest (hmountopts v htaken))

theorem mountopts_getD (o : ClientOptions) : (mountoptsOf o).getD [] = o.mountopts.toList := by
  unfold mountoptsOf
  split
  case isTrue h => simp [h]
  case isFalse => rfl

theorem msize_getD (o : ClientOptions) :
    (msizeOf o).getD (toString Options.defaultMsize).toList = (toString o.msize).toList := by
  unfold msizeOf
  split
  case isTrue h => rw [h, Option.getD_none]
  case isFalse => rfl

theorem mountoptsOf_eq_none_iff : mountoptsOf o = none ↔ o.mountopts = "" := by
  simp [mountoptsOf]

theorem msizeOf_eq_none_iff : msizeOf o = none ↔ o.msize = Options.defaultMsize := by
  simp [msizeOf]

theorem takeFlag_msize (h : o.msize = Options.defaultMsize → ¬ BeginsLike "-msize" args) :
    takeFlag "-msize".toList (afterMountopts o args) = (msizeOf o, argWords args) := by
  refine takeFlag_written _ fun hnone => ?_
  rw [opens_argWords_iff (by decide)]
  exact h (msizeOf_eq_none_iff.mp hnone)

theorem takeFlag_mountopts
    (h : o.msize = Options.defaultMsize → o.mountopts = "" → ¬ BeginsLike "-mountopts" args) :
    takeFlag "-mountopts".toList (afterPort o args) = (mountoptsOf o, afterMountopts o args) := by
  refine takeFlag_written _ fun hnone => ?_
  rw [afterMountopts, opens_written_iff (by decide), opens_argWords_iff (by decide),
    msizeOf_eq_none_iff]
  rintro ⟨hmsize, hbegins⟩
  exact h hmsize (mountoptsOf_eq_none_iff.mp hnone) hbegins

theorem takeFlag_port (h : o.msize = Options.defaultMsize → o.mountopts = "" → port = none →
      ¬ BeginsLike "-port9p" args) :
    takeFlag "-port9p".toList (written "-port9p".toList (port.map String.toList) ++
      afterPort o args) = (port.map String.toList, afterPort o args) := by
  refine takeFlag_written _ fun hnone => ?_
  rw [afterPort, afterMountopts, opens_written_iff (by decide), opens_written_iff (by decide),
    opens_argWords_iff (by decide), mountoptsOf_eq_none_iff, msizeOf_eq_none_iff]
  rintro ⟨hmountopts, hmsize, hbegins⟩
  exact h hmsize hmountopts (Option.map_eq_none_iff.mp hnone) hbegins

theorem read?_of_isReadable (h : IsReadable o args port) :
    read? (command o args port) = some (invocation o args port) := by
  rw [read?_command h.oneWord, readFlags, takeFlag_port h.noPort]
  dsimp only
  rw [takeFlag_mountopts h.noMountopts]
  dsimp only
  rw [takeFlag_msize h.noMsize]
  dsimp only
  rw [mountopts_getD, msize_getD, intercalate_argWords, invocation]

theorem isReadable_of_read? (h : read? (command o args port) = some (invocation o args port)) :
    IsReadable o args port := by
  have honeWord : ∀ w ∈ o.bin :: o.mountopts :: port.toList, ' ' ∉ w.toList := by
    obtain ⟨hbin, hmountopts, hport⟩ := oneWord_of_read? h
    simp only [List.forall_mem_cons, Option.mem_toList]
    exact ⟨hbin, hmountopts, fun p hp => hport p.toList (Option.mem_map_of_mem _ hp)⟩
  rw [read?_command honeWord] at h
  have hargs : ([' '].intercalate (takeFlag "-msize".toList (takeFlag "-mountopts".toList
      (takeFlag "-port9p".toList (written "-port9p".toList (port.map String.toList) ++
        afterPort o args)).2).2).2).length = ([' '].intercalate (argWords args)).length := by
    rw [intercalate_argWords]
    exact congrArg List.length (congrArg Invocation.args (Option.some.inj h))
  have hopens {name : String} (hname : ' ' ∉ name.toList) (hbegins : BeginsLike name args) :=
    (length_takeFlag name.toList (argWords args)).2 ((opens_argWords_iff hname).mpr hbegins)
  -- What is left only gets shorter, so that no flag can have been taken from the arguments.
  have noPort : o.msize = Options.defaultMsize → o.mountopts = "" → port = none →
      ¬ BeginsLike "-port9p" args := by
    rintro hmsize hmountopts rfl hbegins
    have hws : written "-port9p".toList ((none : Option String).map String.toList) ++
        afterPort o args = argWords args := by
      simp [afterPort, afterMountopts, written, mountoptsOf, msizeOf, hmsize, hmountopts]
    rw [hws] at hargs
    have hport := hopens (by decide) hbegins
    have hrest := (length_takeFlag "-mountopts".toList
      (takeFlag "-port9p".toList (argWords args)).2).1
    have hlast := (length_takeFlag "-msize".toList (takeFlag "-mountopts".toList
      (takeFlag "-port9p".toList (argWords args)).2).2).1
    omega
  rw [takeFlag_port noPort] at hargs
  dsimp only at hargs
  have noMountopts : o.msize = Options.defaultMsize → o.mountopts = "" →
      ¬ BeginsLike "-mountopts" args := by
    intro hmsize hmountopts hbegins
    have hws : afterPort o args = argWords args := by
      simp [afterPort, afterMountopts, written, mountoptsOf, msizeOf, hmsize, hmountopts]
    rw [hws] at hargs
    have hmountopts := hopens (by decide) hbegins
    have hlast := (length_takeFlag "-msize".toList
      (takeFlag "-mountopts".toList (argWords args)).2).1
    omega
  rw [takeFlag_mountopts noMountopts] at hargs
  dsimp only at hargs
  refine ⟨honeWord, fun hmsize hbegins => ?_, noMountopts, noPort⟩
  have hws : afterMountopts o args = argWords args := by
    simp [afterMountopts, written, msizeOf, hmsize]
  rw [hws] at hargs
  have hmsize := hopens (by decide) hbegins
  omega

end

/-- A command line is read back exactly if nothing in it can be taken for something else, and calls
with such command lines never share one. -/
theorem command_readBack (o : ClientOptions) (args : String) (port : Option String) :
    (read? (command o args port) = some (invocation o args port) ↔ IsReadable o args port) ∧
      (IsReadable o args port → ∀ o' args' port', IsReadable o' args' port' →
        command o args port = command o' args' port' →
          o.bin = o'.bin ∧ port = port' ∧ o.mountopts = o'.mountopts ∧ o.msize = o'.msize ∧
            args = args') := by
  refine ⟨⟨isReadable_of_read?, read?_of_isReadable⟩, fun h o' args' port' h' hsame => ?_⟩
  have hread := read?_of_isReadable h
  rw [hsame, read?_of_isReadable h'] at hread
  obtain ⟨hbin, hport, hmountopts, hmsize, hargs⟩ := Invocation.mk.inj (Option.some.inj hread)
  refine ⟨String.toList_inj.mp hbin.symm, ?_, String.toList_inj.mp hmountopts.symm, ?_,
    String.toList_inj.mp hargs.symm⟩
  · exact (Option.map_injective (fun _ _ => String.toList_inj.mp) hport).symm
  · exact (toString_injective hmsize).symm

def plain : ClientOptions := { host := "far", keyFile := { parts := ["k"] } }

def sized : ClientOptions := { plain with msize := 4096 }

theorem command_readBack_sized :
    IsReadable sized "grep -n 'a b'" (some "40123") ∧
      read? (command sized "grep -n 'a b'" (some "40123")) =
        some (invocation sized "grep -n 'a b'" (some "40123")) := by
  have hreadable : IsReadable sized "grep -n 'a b'" (some "40123") := {
    oneWord := by decide
    noMsize := by decide
    noMountopts := by decide
    noPort := by decide }
  exact ⟨hreadable, (command_readBack sized "grep -n 'a b'" (some "40123")).1.mpr hreadable⟩

def spaced : ClientOptions := { plain with bin := "my cpud" }

/-- Arguments that begin like a flag are taken for one, and a path with a blank for two words. -/
theorem command_ambiguous :
    Options.check [("host", .text "far"), ("key_file", .text "k")] = .ok plain ∧
      Options.check [("host", .text "far"), ("key_file", .text "k"), ("msize", .int 4096)] =
        .ok sized ∧
      Options.check [("host", .text "far"), ("key_file", .text "k"), ("bin", .text "my cpud")] =
        .ok spaced ∧
      command plain "-msize 4096 ls" none = command sized "ls" none ∧
      read? (command plain "-msize 4096 ls" none) ≠
        some (invocation plain "-msize 4096 ls" none) ∧
      read? (command spaced "ls" none) = none := by
  refine ⟨rfl, rfl, rfl, ?_, ?_, ?_⟩
  all_goals decide

end Tether.Launch
