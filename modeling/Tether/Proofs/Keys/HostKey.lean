import Tether.Keys.HostKey
import Tether.Proofs.Bytes.Base64
import Tether.Proofs.Bytes.Wire
import Tether.Proofs.Text.Words

/-! # Finding a host key

A host key is given as a blob, or as a text in which its type and its blob stand next to each
other. Both give the same key. In a text the first two neighbouring words that describe themselves
decide: where the blob is no key, no further words are looked at.
-/

namespace Tether

open Text

namespace PublicKey

def typeNames : List String := rsaTypes ++ "ssh-ed25519" :: Curve.Nist.all.map ecdsaName

theorem mem_typeNames {type : String} {blob : Bytes} {k : PublicKey}
    (h : ofBlob type blob = .ok k) : type ∈ typeNames := by
  unfold ofBlob at h
  split at h
  case isTrue hrsa => exact List.mem_append_left _ (List.contains_iff_mem.mp hrsa)
  split at h
  case isTrue hed => exact List.mem_append_right _ (hed ▸ List.mem_cons_self)
  split at h
  case h_1 c hc =>
    refine List.mem_append_right _ (List.mem_cons_of_mem _ (List.mem_map.mpr ⟨c, ?_, ?_⟩))
    · exact List.mem_of_find?_eq_some hc
    · simpa using List.find?_some (p := fun c => ecdsaName c == type) hc
  case h_2 => cases h

theorem typeNames_plain {type : String} (h : type ∈ typeNames) :
    4 ≤ type.toList.length ∧ '-' ∈ type.toList ∧ ∀ c ∈ type.toList, isBlank c = false := by
  have hall : (typeNames.all fun t => 4 ≤ t.toList.length && t.toList.contains '-' &&
      t.toList.all fun c => !isBlank c) = true := by
    decide +kernel
  simpa [and_assoc] using List.all_eq_true.mp hall type h

end PublicKey

namespace HostKey

variable {κ : Type} {ofBlob : String → Bytes → Except KeyFault κ} {data blob : Bytes} {k : κ}

/-! ### Neighbouring words -/

/-- The neighbouring words of the lines that are no comments, in the order in which they stand. -/
def pairs (text : List Char) : List (List Char × List Char) :=
  ((lines text).filter fun line => !isComment (trim line)).flatMap fun line =>
    (words line).zip (words line).tail

/-- The second word is a blob that declares the first one as its type. -/
def Describes (p : List Char × List Char) (blob : Bytes) : Prop :=
  Base64.decodeStrict p.2 = some blob ∧ declaredType blob = some (String.ofList p.1)

theorem candidate?_eq_some_iff {type blob' : List Char} {c : String × Bytes} :
    candidate? type blob' = some c ↔ Describes (type, blob') c.2 ∧ c.1 = String.ofList type := by
  obtain ⟨name, bs⟩ := c
  unfold candidate? Describes
  cases Base64.decodeStrict blob' with
  | none => simp
  | some bs' =>
    dsimp only
    split <;> simp_all <;> grind

theorem candidate?_eq_none {type blob' : List Char} (h : ∀ bs, ¬ Describes (type, blob') bs) :
    candidate? type blob' = none := by
  rw [Option.eq_none_iff_forall_ne_some]
  intro c hc
  exact h _ (candidate?_eq_some_iff.mp hc).1

theorem candidatesOf_eq (ws : List (List Char)) :
    candidatesOf ws = (ws.zip ws.tail).filterMap fun p => candidate? p.1 p.2 := by
  induction ws with
  | nil => rfl
  | cons a ws ih =>
    cases ws with
    | nil => rfl
    | cons b ws =>
      rw [candidatesOf, ih, List.tail_cons, List.tail_cons, List.zip_cons_cons,
        List.filterMap_cons]
      cases candidate? a b <;> rfl

theorem candidates_eq (text : List Char) :
    candidates text = (pairs text).filterMap fun p => candidate? p.1 p.2 := by
  rw [candidates, pairs]
  induction lines text with
  | nil => rfl
  | cons line ls ih =>
    rw [List.map_cons, List.flatMap_cons, ih, List.filter_cons]
    cases hcomment : isComment (trim line) with
    | true => simp
    | false =>
      rw [Bool.or_false, Bool.not_false, if_pos rfl, List.flatMap_cons, List.filterMap_append]
      congr 1
      split
      case isTrue hblank =>
        rw [← words_trim line, of_decide_eq_true hblank]
        rfl
      case isFalse => rw [words_trim, candidatesOf_eq]

/-! ### The search -/

def IsBlobOf (ofBlob : String → Bytes → Except KeyFault κ) (data : Bytes) (k : κ) : Prop :=
  ∃ type, declaredType data = some type ∧ type ≠ "" ∧ ofBlob type data = .ok k

theorem ofRawWith?_eq_some_iff : ofRawWith? ofBlob data = some k ↔ IsBlobOf ofBlob data k := by
  unfold ofRawWith? IsBlobOf
  cases declaredType data with
  | none => simp
  | some type =>
    dsimp only
    split
    case isTrue hempty => simp [hempty]
    case isFalse hnonempty =>
      cases hkey : ofBlob type data <;> simp [Except.toOption, hnonempty, hkey]

theorem ofRawWith?_eq_none (h : ∀ k, ¬ IsBlobOf ofBlob data k) : ofRawWith? ofBlob data = none := by
  rw [Option.eq_none_iff_forall_ne_some]
  intro k hk
  exact h k (ofRawWith?_eq_some_iff.mp hk)

theorem parseWith_of_pairs {before after : List (List Char × List Char)}
    {p : List Char × List Char} (hraw : ∀ k, ¬ IsBlobOf ofBlob data k)
    (hpairs : pairs (Utf8.decodeLossy data) = before ++ p :: after)
    (hbefore : ∀ q ∈ before, ∀ bs, ¬ Describes q bs) (hp : Describes p blob) :
    parseWith ofBlob data = ofBlob (String.ofList p.1) blob := by
  have hskip : before.filterMap (fun q => candidate? q.1 q.2) = [] :=
    List.filterMap_eq_nil_iff.mpr fun q hq => candidate?_eq_none (hbefore q hq)
  have hfirst : candidate? p.1 p.2 = some (String.ofList p.1, blob) :=
    candidate?_eq_some_iff.mpr ⟨hp, rfl⟩
  have hcandidates : candidates (Utf8.decodeLossy data) =
      (String.ofList p.1, blob) :: after.filterMap fun q => candidate? q.1 q.2 := by
    rw [candidates_eq, hpairs, List.filterMap_append, hskip, List.nil_append, List.filterMap_cons,
      hfirst]
  rw [parseWith, ofRawWith?_eq_none hraw, hcandidates]

theorem parseWith_of_no_pair (hraw : ∀ k, ¬ IsBlobOf ofBlob data k)
    (hpairs : ∀ q ∈ pairs (Utf8.decodeLossy data), ∀ bs, ¬ Describes q bs) :
    parseWith ofBlob data = .error .noKey := by
  have hcandidates : candidates (Utf8.decodeLossy data) = [] := by
    rw [candidates_eq]
    exact List.filterMap_eq_nil_iff.mpr fun q hq => candidate?_eq_none (hpairs q hq)
  rw [parseWith, ofRawWith?_eq_none hraw, hcandidates]

/-- What the search for a host key comes to. A pair that describes itself but is no key is not
passed over. -/
inductive Finds (ofBlob : String → Bytes → Except KeyFault κ) (data : Bytes) :
    Except KeyFault κ → Prop
  | whole {k : κ} (raw : IsBlobOf ofBlob data k) : Finds ofBlob data (.ok k)
  | found {before after : List (List Char × List Char)} {p : List Char × List Char} {blob : Bytes}
      {k : κ} (raw : ∀ k, ¬ IsBlobOf ofBlob data k)
      (split : pairs (Utf8.decodeLossy data) = before ++ p :: after)
      (skipped : ∀ q ∈ before, ∀ bs, ¬ Describes q bs) (described : Describes p blob)
      (key : ofBlob (String.ofList p.1) blob = .ok k) : Finds ofBlob data (.ok k)
  /-- The first pair that describes itself is no key, whatever stands behind it. -/
  | spoilt {before after : List (List Char × List Char)} {p : List Char × List Char}
      {blob : Bytes} {fault : KeyFault} (raw : ∀ k, ¬ IsBlobOf ofBlob data k)
      (split : pairs (Utf8.decodeLossy data) = before ++ p :: after)
      (skipped : ∀ q ∈ before, ∀ bs, ¬ Describes q bs) (described : Describes p blob)
      (refused : ofBlob (String.ofList p.1) blob = .error fault) : Finds ofBlob data (.error fault)
  | nothing (raw : ∀ k, ¬ IsBlobOf ofBlob data k)
      (skipped : ∀ q ∈ pairs (Utf8.decodeLossy data), ∀ bs, ¬ Describes q bs) :
      Finds ofBlob data (.error .noKey)

theorem Finds.eq {r : Except KeyFault κ} (h : Finds ofBlob data r) :
    parseWith ofBlob data = r := by
  cases h with
  | whole raw => rw [parseWith, ofRawWith?_eq_some_iff.mpr raw]
  | found raw split skipped described key =>
    rw [parseWith_of_pairs raw split skipped described, key]
  | spoilt raw split skipped described refused =>
    rw [parseWith_of_pairs raw split skipped described, refused]
  | nothing raw skipped => exact parseWith_of_no_pair raw skipped

theorem exists_first (ps : List (List Char × List Char)) :
    (∃ before p after blob, ps = before ++ p :: after ∧
      (∀ q ∈ before, ∀ bs, ¬ Describes q bs) ∧ Describes p blob) ∨
    ∀ q ∈ ps, ∀ bs, ¬ Describes q bs := by
  induction ps with
  | nil => exact .inr (by simp)
  | cons p ps ih =>
    by_cases hp : ∃ blob, Describes p blob
    · obtain ⟨blob, hblob⟩ := hp
      exact .inl ⟨[], p, ps, blob, rfl, by simp, hblob⟩
    · rw [not_exists] at hp
      rcases ih with ⟨before, p', after, blob, rfl, hbefore, hp'⟩ | hnone
      · exact .inl ⟨p :: before, p', after, blob, rfl, List.forall_mem_cons.mpr ⟨hp, hbefore⟩, hp'⟩
      · exact .inr (List.forall_mem_cons.mpr ⟨hp, hnone⟩)

theorem exists_finds (ofBlob : String → Bytes → Except KeyFault κ) (data : Bytes) :
    ∃ r, Finds ofBlob data r := by
  by_cases hraw : ∃ k, IsBlobOf ofBlob data k
  · obtain ⟨k, hk⟩ := hraw
    exact ⟨_, .whole hk⟩
  rw [not_exists] at hraw
  rcases exists_first (pairs (Utf8.decodeLossy data)) with
    ⟨before, p, after, blob, hsplit, hbefore, hp⟩ | hnone
  · cases hkey : ofBlob (String.ofList p.1) blob with
    | ok k => exact ⟨_, .found hraw hsplit hbefore hp hkey⟩
    | error fault => exact ⟨_, .spoilt hraw hsplit hbefore hp hkey⟩
  · exact ⟨_, .nothing hraw hnone⟩

/-- The search comes to one thing for all data: the data as a whole, or else the first pair that
describes itself. -/
theorem parseWith_finds (ofBlob : String → Bytes → Except KeyFault κ) (data : Bytes)
    (r : Except KeyFault κ) : parseWith ofBlob data = r ↔ Finds ofBlob data r := by
  constructor
  · rintro rfl
    obtain ⟨r, hr⟩ := exists_finds ofBlob data
    rw [hr.eq]
    exact hr
  · exact Finds.eq

example : parse (Utf8.encode ("foo AAAAA2ZvbwAAAANhYmM=\n" ++ "ssh-ed25519 " ++
    "AAAAC3NzaC1lZDI1NTE5AAAAIMFgBR2GOKERT9R/HKiKktQc9CQRxTrlZvo1YeVwIYqQ")) =
      .error (.unknownType "foo" 14) := by
  decide +kernel

/-! ### Blobs and texts -/

/-- A text that gives a key: blank lines and comments, then a line with the type and the text of
the blob next to each other, behind one other word at most. -/
inductive IsKeyText (type : String) (blob : Bytes) (text : List Char) : Prop
  | intro {before after comment : List (List Char)} {line : List Char} {front : Option (List Char)}
      (split : lines text = before ++ line :: after)
      (aside : ∀ l ∈ before, trim l = [] ∨ isComment (trim l))
      (plain : isComment (trim line) = false)
      (fields : words line = front.toList ++ type.toList :: Base64.encode blob :: comment)

section

variable {type : String} {text : String} {rest : Bytes}

theorem pairs_lines {ls : List (List Char)} (h : ∀ l ∈ ls, trim l = [] ∨ isComment (trim l)) :
    ((ls.filter fun line => !isComment (trim line)).flatMap fun line =>
      (words line).zip (words line).tail) = [] := by
  rw [List.flatMap_eq_nil_iff]
  intro l hl
  obtain ⟨hmem, hplain⟩ := List.mem_filter.mp hl
  rcases h l hmem with hblank | hcomment
  · rw [← words_trim, hblank]
    rfl
  · simp [hcomment] at hplain

theorem IsKeyText.pairs_eq {cs : List Char} (h : IsKeyText type blob cs) :
    ∃ before after, pairs cs = before ++ (type.toList, Base64.encode blob) :: after ∧
      ∀ q ∈ before, q.2 = type.toList := by
  obtain ⟨hsplit, haside, hplain, hfields⟩ := h
  rw [pairs, hsplit, List.filter_append, List.flatMap_append, pairs_lines haside, List.nil_append,
    List.filter_cons, hplain, Bool.not_false, if_pos rfl, List.flatMap_cons, hfields]
  rename_i front
  cases front with
  | none => exact ⟨[], _, rfl, by simp⟩
  | some f => exact ⟨[(f, type.toList)], _, rfl, by simp⟩

theorem IsKeyText.exists_blank {cs : List Char} (h : IsKeyText type blob cs) :
    ∃ q b r, cs = q ++ type.toList ++ b :: r ∧ isBlank b := by
  obtain ⟨hsplit, -, -, hfields⟩ := h
  obtain ⟨q, r, rfl⟩ := exists_of_lines_eq_append hsplit
  obtain ⟨q', b, r', rfl, hb⟩ := exists_blank_of_words hfields
  exact ⟨q ++ q', b, r' ++ r, by simp, hb⟩

theorem length_le_length_encodeChars (cs : List Char) :
    cs.length ≤ (cs.flatMap Utf8.encodeChar).length := by
  induction cs with
  | nil => exact Nat.zero_le _
  | cons c cs ih =>
    obtain ⟨lead, tail, hchar, -⟩ := Utf8.headOf_encodeChar c
    rw [List.flatMap_cons, hchar, List.cons_append, List.length_cons, List.length_cons,
      List.length_append]
    omega

theorem not_isBlobOf_text
    (hblank : ∀ name bs k, ofBlob name bs = .ok k → ∀ c ∈ name.toList, isBlank c = false)
    (htype : 4 ≤ type.toList.length) (htext : IsKeyText type blob text.toList)
    (hshort : (Utf8.encode text).length < Bytes.toNat ((Utf8.encode text).take 4)) (k : κ) :
    ¬ IsBlobOf ofBlob (Utf8.encode text) k := by
  rintro ⟨name, hdeclared, -, haccepted⟩
  obtain ⟨q, b, r, hcs, hb⟩ := htext.exists_blank
  have hbytes : Utf8.encode text =
      (q ++ type.toList).flatMap Utf8.encodeChar ++ Utf8.encodeChar b ++
        r.flatMap Utf8.encodeChar := by
    rw [Utf8.encode, hcs, List.flatMap_append, List.flatMap_cons, List.append_assoc]
  have hfour : 4 ≤ ((q ++ type.toList).flatMap Utf8.encodeChar).length := by
    have hle := length_le_length_encodeChars (q ++ type.toList)
    rw [List.length_append] at hle
    omega
  have hdrop : (Utf8.encode text).drop 4 =
      ((q ++ type.toList).flatMap Utf8.encodeChar).drop 4 ++ Utf8.encodeChar b ++
        r.flatMap Utf8.encodeChar := by
    rw [hbytes, List.append_assoc, List.drop_append_of_le_length hfour, ← List.append_assoc]
  have hlength : 4 ≤ (Utf8.encode text).length := by
    rw [hbytes, List.length_append, List.length_append]
    omega
  have hread : (Wire.text (Utf8.encode text)).1 = .ok name := by
    unfold declaredType at hdeclared
    cases hname : (Wire.text (Utf8.encode text)).1 with
    | error e => rw [hname] at hdeclared; cases hdeclared
    | ok s => rw [hname] at hdeclared; rw [Option.some.inj hdeclared]
  have hmem : b ∈ name.toList := Wire.mem_of_text_short hdrop hlength hshort hread
  rw [hblank name _ k haccepted b hmem] at hb
  cases hb

theorem describes_encode (h : Wire.text? blob = some (type, rest)) :
    Describes (type.toList, Base64.encode blob) blob := by
  constructor
  · exact Base64.decodeStrict_encode blob
  · rw [declaredType, Wire.text_of_text? h, String.ofList_toList]
    rfl

theorem not_describes_of_hyphen {p : List Char × List Char} (h : '-' ∈ p.2) (bs : Bytes) :
    ¬ Describes p bs := by
  rintro ⟨hdecode, -⟩
  have hvalue := Base64.mem_of_decodeStrict hdecode '-' h
  revert hvalue
  decide

/-- A key is the same from its blob and from a text that gives it. -/
theorem parseWith_agrees
    (hblank : ∀ name bs k, ofBlob name bs = .ok k → ∀ c ∈ name.toList, isBlank c = false)
    (htype : 4 ≤ type.toList.length) (hhyphen : '-' ∈ type.toList)
    (hdeclared : Wire.text? blob = some (type, rest)) (hkey : ofBlob type blob = .ok k) :
    parseWith ofBlob blob = .ok k ∧
      ∀ text : String, IsKeyText type blob text.toList →
        (Utf8.encode text).length < Bytes.toNat ((Utf8.encode text).take 4) →
        parseWith ofBlob (Utf8.encode text) = .ok k := by
  constructor
  · have hraw : IsBlobOf ofBlob blob k := by
      refine ⟨type, ?_, ?_, hkey⟩
      · rw [declaredType, Wire.text_of_text? hdeclared]
        rfl
      · rintro rfl
        cases hhyphen
    rw [parseWith, ofRawWith?_eq_some_iff.mpr hraw]
  · intro text htext hshort
    obtain ⟨before, after, hpairs, hbefore⟩ := htext.pairs_eq
    rw [← Utf8.decodeLossy_encode] at hpairs
    rw [parseWith_of_pairs (not_isBlobOf_text hblank htype htext hshort) hpairs
      (fun q hq => not_describes_of_hyphen (hbefore q hq ▸ hhyphen)) (describes_encode hdeclared),
      String.ofList_toList, hkey]

end

def pinned : PublicKey := .ed25519 (List.replicate 32 7)

def pinnedLine : List Char :=
  "myhost ssh-ed25519 ".toList ++ Base64.encode pinned.blob ++ " root".toList

def pinnedText : String := String.ofList ("# pinned\n\n".toList ++ pinnedLine ++ "\nrest\n".toList)

theorem pinnedText_isKeyText : IsKeyText "ssh-ed25519" pinned.blob pinnedText.toList := by
  have hsplit : lines pinnedText.toList =
      ["# pinned".toList, []] ++ pinnedLine :: ["rest".toList] := by
    decide +kernel
  have hfields : words pinnedLine = (some "myhost".toList).toList ++
      "ssh-ed25519".toList :: Base64.encode pinned.blob :: ["root".toList] := by
    decide +kernel
  exact .intro hsplit (by decide +kernel) (by decide +kernel) hfields

theorem parseWith_agrees_pinned :
    parseWith PublicKey.ofBlob pinned.blob = .ok pinned ∧
      parseWith PublicKey.ofBlob (Utf8.encode pinnedText) = .ok pinned := by
  have hblank : ∀ name bs k, PublicKey.ofBlob name bs = .ok k →
      ∀ c ∈ name.toList, isBlank c = false :=
    fun name bs k h => (PublicKey.typeNames_plain (PublicKey.mem_typeNames h)).2.2
  have hdeclared : Wire.text? pinned.blob =
      some ("ssh-ed25519", Wire.putString (List.replicate 32 7)) := by
    decide +kernel
  have hkey : PublicKey.ofBlob "ssh-ed25519" pinned.blob = .ok pinned := by
    decide +kernel
  have hshort : (Utf8.encode pinnedText).length <
      Bytes.toNat ((Utf8.encode pinnedText).take 4) := by
    decide +kernel
  obtain ⟨hblob, htext⟩ :=
    parseWith_agrees hblank (by decide +kernel) (by decide +kernel) hdeclared hkey
  exact ⟨hblob, htext pinnedText pinnedText_isKeyText hshort⟩

end HostKey

end Tether
