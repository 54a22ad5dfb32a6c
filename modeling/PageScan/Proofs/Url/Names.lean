import Mathlib.Data.List.TakeWhile
import Mathlib.Tactic.Set
import PageScan.Proofs.Text.Bytes
import PageScan.Proofs.Text.Find
import PageScan.Url.Basic

/-!
# Plain domain names

A name of small ASCII letters, digits, hyphens and points is written in ASCII as it is, as long as
none of its labels claims to be Punycode. So the host of a web address with such a name is that
name.

* `Domain.toAscii?_eq_self`: plain names stay as they are.
* `exists_host_https`: the host of the address of a file on a machine with a plain name.
-/

namespace PageScan.Url

namespace Domain

/-- A character that a domain name holds as it is. -/
def IsPlain (c : Char) : Prop :=
  c.toNat < 0x80 ∧ isForbidden c = false ∧ Text.lowerAscii c = c

instance (c : Char) : Decidable (IsPlain c) :=
  inferInstanceAs (Decidable (_ ∧ _ ∧ _))

/-- A table of ranges that is given by its characters. -/
theorem ranges_ofList (cs : List Char) :
    Text.ranges (String.ofList cs) = (Text.wordsFrom [] cs).map Text.range := by
  rw [Text.ranges, Text.words, String.toList_ofList]

set_option maxRecDepth 20000 in
theorem ascii_lt_markRanges : markRanges.all (fun r => 0x80 ≤ r.1) = true := by
  -- the table has to be a list of characters, as the kernel is slow to take a string apart
  refine (congrArg (List.all · _) (ranges_ofList _ : markRanges = _)).trans ?_
  decide +kernel

theorem inRanges_markRanges_of_lt {n : Nat} (h : n < 0x80) :
    Text.inRanges markRanges n = false := by
  refine List.any_eq_false.2 fun r hr => ?_
  have hlow := List.all_eq_true.1 ascii_lt_markRanges r hr
  simp only [decide_eq_true_eq] at hlow
  simp only [Bool.and_eq_true, decide_eq_true_eq, not_and]
  omega

theorem joinersFit_of_ascii {before cs : List Char} (h : ∀ c ∈ cs, c.toNat < 0x80) :
    joinersFit before cs = true := by
  induction cs generalizing before with
  | nil => rfl
  | cons c cs ih =>
    obtain ⟨hc, hcs⟩ := List.forall_mem_cons.1 h
    rw [joinersFit, ih hcs, Bool.and_true]
    split
    · omega
    · omega
    · rfl

theorem isLabel_of_ascii {label : List Char} (h : ∀ c ∈ label, c.toNat < 0x80) :
    isLabel label = true := by
  rw [isLabel, joinersFit_of_ascii h, Bool.and_true]
  rcases label with _ | ⟨c, cs⟩
  · rfl
  · rw [List.head?_cons, Option.any_some, inRanges_markRanges_of_lt (h c (.head cs))]
    rfl

theorem runsBackward_of_ascii {c : Char} (h : c.toNat < 0x80) : runsBackward c = false := by
  unfold runsBackward direction
  rw [if_pos h]
  split_ifs <;> rfl

theorem flatMap_fold_of_plain {name : List Char} (h : ∀ c ∈ name, IsPlain c) :
    name.flatMap fold = name := by
  have hfold (c : Char) (hc : c ∈ name) : fold c = [c] := by
    obtain ⟨hascii, -, hlower⟩ := h c hc
    rw [fold, if_pos hascii, hlower]
  rw [List.flatMap_congr hfold, List.flatMap_singleton']

theorem isClean_of_plain {name : List Char} (h : ∀ c ∈ name, IsPlain c) : isClean name = true := by
  refine List.all_eq_true.2 fun c hc => ?_
  obtain ⟨hascii, hallowed, -⟩ := h c hc
  rw [if_pos hascii, hallowed]
  rfl

/-- What is done to each of some values, and changes none of them, changes nothing. -/
theorem mapM_eq_self {α : Type} {f : α → Option α} {xs : List α} (h : ∀ x ∈ xs, f x = some x) :
    xs.mapM f = some xs := by
  induction xs with
  | nil => rfl
  | cons x xs ih =>
    obtain ⟨hx, hxs⟩ := List.forall_mem_cons.1 h
    rw [List.mapM_cons, hx, ih hxs]
    rfl

/-- A plain name is its own form in ASCII. -/
theorem toAscii?_eq_self {name : List Char} (hplain : ∀ c ∈ name, IsPlain c)
    (hlabels : ∀ label ∈ Text.pieces (· = '.') name,
      Text.stripLead? encodedLead label = none) :
    toAscii? name = some name := by
  have hascii (c : Char) (hc : c ∈ name) : c.toNat < 0x80 := (hplain c hc).1
  have hpiece {label : List Char} (hlabel : label ∈ Text.pieces (· = '.') name) (c : Char)
      (hc : c ∈ label) : c.toNat < 0x80 :=
    hascii c (Text.mem_of_mem_pieces hlabel hc)
  have hall : name.all (·.toNat < 0x80) = true := by simpa using hascii
  have hadmitted : name.all (fun c => c.toNat < 0x80 || !isRefused c) = true :=
    List.all_eq_true.2 fun c hc => by simp [hascii c hc]
  have hunfolded : (Text.pieces (· = '.') name).mapM unfoldLabel? =
      some (Text.pieces (· = '.') name) :=
    mapM_eq_self fun label hlabel => by
      rw [unfoldLabel?, hlabels label hlabel]
      exact if_pos (isLabel_of_ascii (hpiece hlabel))
  have hforward : (Text.pieces (· = '.') name).any (·.any runsBackward) = false :=
    List.any_eq_false.2 fun label hlabel => by
      simpa using fun c hc => runsBackward_of_ascii (hpiece hlabel c hc)
  have hwritten : (Text.pieces (· = '.') name).mapM labelToAscii? =
      some (Text.pieces (· = '.') name) :=
    mapM_eq_self fun label hlabel => by
      rw [labelToAscii?, if_pos (by simpa using hpiece hlabel)]
  simp only [toAscii?, hadmitted, flatMap_fold_of_plain hplain, hall, if_true,
    isClean_of_plain hplain, hunfolded, hforward, hwritten, Bool.not_true, Bool.false_and,
    Bool.false_eq_true, if_false, Option.map_some, Text.intercalate_pieces]

theorem IsPlain.lt {c : Char} (h : IsPlain c) : 0x20 < c.toNat := by
  have hallowed := h.2.1
  simp only [isForbidden, Bool.or_eq_false_iff, decide_eq_false_iff_not] at hallowed
  omega

theorem IsPlain.ne {c d : Char} (h : IsPlain c) (hd : isForbidden d = true) : c ≠ d := by
  rintro rfl
  rw [h.2.1] at hd
  cases hd

end Domain

open Domain (IsPlain)

/-! ## Bytes -/

theorem percentDecode_eq_self {bytes : List UInt8} (h : ∀ b ∈ bytes, b ≠ 0x25) :
    percentDecode bytes = bytes := by
  fun_induction percentDecode bytes with
  | case1 => rfl
  | case2 a b rest => exact absurd rfl (h 0x25 (.head _))
  | case3 a b rest => exact absurd rfl (h 0x25 (.head _))
  | case4 b rest _ ih => rw [ih fun b hb => h b (.tail _ hb)]

theorem lossyFrom_of_ascii {bytes : List UInt8} (h : ∀ b ∈ bytes, b.toNat < 0x80) :
    Text.lossyFrom none bytes = bytes.map fun b => Char.ofNat b.toNat := by
  induction bytes with
  | nil => rfl
  | cons b bs ih =>
    obtain ⟨hb, hbs⟩ := List.forall_mem_cons.1 h
    rw [Text.lossyFrom, List.map_cons, ← ih hbs]
    exact if_pos hb

theorem toNat_ofNat_of_ascii {c : Char} (h : c.toNat < 0x80) :
    (UInt8.ofNat c.toNat).toNat = c.toNat := by
  rw [UInt8.toNat_ofNat']
  omega

/-- A plain name is written in bytes and read back as it is. -/
theorem lossy_percentDecode_of_plain {name : List Char} (h : ∀ c ∈ name, IsPlain c) :
    (Text.lossy (percentDecode (Text.utf8 (String.ofList name)))).toList = name := by
  set bytes := name.map fun c => UInt8.ofNat c.toNat with hbytes
  have hnat {c : Char} (hc : c ∈ name) : (UInt8.ofNat c.toNat).toNat = c.toNat :=
    toNat_ofNat_of_ascii (h c hc).1
  have hname : name = bytes.map fun b => Char.ofNat b.toNat := by
    rw [hbytes, List.map_map]
    refine (List.map_id name).symm.trans (List.map_congr_left fun c hc => ?_)
    simp [hnat hc]
  have hascii (b : UInt8) (hb : b ∈ bytes) : b.toNat < 0x80 := by
    obtain ⟨c, hc, rfl⟩ := List.mem_map.1 hb
    rw [hnat hc]
    exact (h c hc).1
  have hpercent (b : UInt8) (hb : b ∈ bytes) : b ≠ 0x25 := by
    obtain ⟨c, hc, rfl⟩ := List.mem_map.1 hb
    intro heq
    have hvalue : c.toNat = '%'.toNat := (hnat hc).symm.trans (congrArg UInt8.toNat heq)
    exact (h c hc).ne (by decide) (Char.toNat_inj.1 hvalue)
  rw [hname, Text.utf8_ofList_bytes hascii, percentDecode_eq_self hpercent, Text.lossy,
    lossyFrom_of_ascii hascii, String.toList_ofList]

/-! ## The address of a file -/

/-- The host of a special scheme that is named by a plain name. -/
theorem Host.ofSpecial_of_plain {name : List Char} (hne : name ≠ [])
    (hplain : ∀ c ∈ name, IsPlain c)
    (hlabels : ∀ label ∈ Text.pieces (· = '.') name,
      Text.stripLead? Domain.encodedLead label = none)
    (hmeant : Ipv4.isMeant name = false) :
    Host.ofSpecial name = .ok (.domain (String.ofList name)) := by
  have hname := lossy_percentDecode_of_plain hplain
  have hascii := Domain.toAscii?_eq_self hplain hlabels
  obtain ⟨c, rest, rfl⟩ := List.exists_cons_of_ne_nil hne
  unfold Host.ofSpecial
  split
  · next hcons =>
    obtain rfl := (List.cons.inj hcons).1
    exact absurd rfl ((hplain '[' (.head _)).ne (by decide))
  · simp only [hname, hascii, hmeant]
    rfl

theorem hostAndPort_of_name {scheme : String} {name : List Char} {host : Host} (hne : name ≠ [])
    (hsplit : splitHost false name = (name, [])) (hread : Host.ofSpecial name = .ok host) :
    hostAndPort .special scheme name = .ok (some host, none) := by
  obtain ⟨c, cs, rfl⟩ := List.exists_cons_of_ne_nil hne
  unfold hostAndPort
  rw [hsplit]
  simp only [hread]
  show Except.ok (some host, if none = defaultPort? scheme then none else none) = _
  rw [ite_self]

theorem splitHost_of_plain {name : List Char} (h : ∀ c ∈ name, IsPlain c) :
    splitHost false name = (name, []) := by
  induction name with
  | nil => rfl
  | cons c cs ih =>
    obtain ⟨hc, hcs⟩ := List.forall_mem_cons.1 h
    have hcolon : c ≠ ':' := hc.ne (by decide)
    have hbracket : c ≠ '[' := hc.ne (by decide)
    simp [splitHost, hcolon, hbracket, ih hcs]

theorem splitUser?_of_plain {name : List Char} (h : ∀ c ∈ name, IsPlain c) :
    splitUser? name = none := by
  have hat : name.reverse.takeWhile (· ≠ '@') = name.reverse :=
    List.takeWhile_eq_self_iff.2 fun c hc => by
      simpa using (h c (List.mem_reverse.1 hc)).ne (d := '@') (by decide)
  rw [splitUser?, hat, List.reverse_reverse]
  exact if_pos rfl

theorem not_endsAuthority_of_plain {c : Char} (h : IsPlain c) :
    endsAuthority .special c = false := by
  have hslash : c ≠ '/' := h.ne (by decide)
  have hquestion : c ≠ '?' := h.ne (by decide)
  have hsharp : c ≠ '#' := h.ne (by decide)
  have hback : c ≠ '\\' := h.ne (by decide)
  simp [endsAuthority, hslash, hquestion, hsharp, hback]

theorem cut_of_not_mem {mark : Char} {cs : List Char} (h : mark ∉ cs) :
    cut (· = mark) cs = (cs, none) := by
  have hall : cs.takeWhile (fun c => !decide (c = mark)) = cs :=
    List.takeWhile_eq_self_iff.2 fun c hc => by
      simpa using fun heq : c = mark => h (heq ▸ hc)
  rw [cut, hall]
  exact if_pos rfl

theorem dropWhile_of_false {p : Char → Bool} {cs : List Char} (h : ∀ c ∈ cs, p c = false) :
    cs.dropWhile p = cs :=
  List.dropWhile_eq_self_iff.2 fun hl => by simp [h _ (List.getElem_mem hl)]

/-- A text without blanks and controls counts as a whole. -/
theorem significant_ofList {cs : List Char} (h : ∀ c ∈ cs, 0x20 < c.toNat) :
    significant (String.ofList cs) = cs := by
  have hedge (c : Char) (hc : c ∈ cs) : decide (c.toNat ≤ 0x20) = false := by
    simpa using h c hc
  have hkept (c : Char) (hc : c ∈ cs) : (!(c = '\t' || c = '\n' || c = '\r')) = true := by
    have hlt := h c hc
    have hne {d : Char} (hd : d.toNat ≤ 0x20) : c ≠ d := by
      rintro rfl
      omega
    simp [hne (d := '\t') (by decide), hne (d := '\n') (by decide), hne (d := '\r') (by decide)]
  simp only [significant, String.toList_ofList]
  rw [dropWhile_of_false hedge,
    dropWhile_of_false fun c hc => hedge c (List.mem_reverse.1 hc), List.reverse_reverse]
  exact List.filter_eq_self.2 hkept

/-- The host of the address of a file is the name of the machine. -/
theorem exists_host_https {name path : List Char} (hne : name ≠ [])
    (hplain : ∀ c ∈ name, IsPlain c)
    (hlabels : ∀ label ∈ Text.pieces (· = '.') name,
      Text.stripLead? Domain.encodedLead label = none)
    (hmeant : Ipv4.isMeant name = false)
    (hpath : ∀ c ∈ path, 0x20 < c.toNat ∧ c ≠ '#' ∧ c ≠ '?') :
    ∃ u, ofText (String.ofList ("https://".toList ++ name ++ '/' :: path)) = .ok u ∧
      u.hostText? = some (String.ofList name) := by
  set cs := name ++ '/' :: path with hcs
  have hfile {mark : Char} (hforbidden : Domain.isForbidden mark = true) (hslash : mark ≠ '/')
      (hmark : mark ∉ path) : mark ∉ cs := by
    rw [hcs, List.mem_append, List.mem_cons]
    rintro (hmem | rfl | hmem)
    · exact (hplain mark hmem).ne hforbidden rfl
    · exact hslash rfl
    · exact hmark hmem
  have hsharp : cut (· = '#') cs = (cs, none) :=
    cut_of_not_mem (hfile (by decide) (by decide) fun hmem => (hpath '#' hmem).2.1 rfl)
  have hquestion : cut (· = '?') cs = (cs, none) :=
    cut_of_not_mem (hfile (by decide) (by decide) fun hmem => (hpath '?' hmem).2.2 rfl)
  have htails : tails .special cs = (cs, none, none) := by
    rw [tails, hsharp]
    simp only [hquestion, Option.map_none]
  have hauthority : cs.takeWhile (!endsAuthority .special ·) = name := by
    have hall : name.takeWhile (!endsAuthority .special ·) = name :=
      List.takeWhile_eq_self_iff.2 fun c hc => by
        rw [not_endsAuthority_of_plain (hplain c hc)]
        rfl
    rw [hcs, List.takeWhile_append, hall]
    simp [endsAuthority]
  have hslashes : ('/' :: '/' :: cs).dropWhile (isSeparator .special) = cs := by
    obtain ⟨c, rest, rfl⟩ := List.exists_cons_of_ne_nil hne
    have hslash : c ≠ '/' := (hplain c (.head _)).ne (by decide)
    have hback : c ≠ '\\' := (hplain c (.head _)).ne (by decide)
    simp [hcs, isSeparator, hslash, hback]
  have hsignificant : significant (String.ofList ("https://".toList ++ name ++ '/' :: path)) =
      'h' :: 't' :: 't' :: 'p' :: 's' :: ':' :: '/' :: '/' :: cs := by
    rw [List.append_assoc, ← hcs]
    refine significant_ofList fun c hc => ?_
    rcases List.mem_append.1 hc with hc | hc
    · exact (by simp : ∀ c ∈ "https://".toList, 0x20 < c.toNat) c hc
    · rw [hcs, List.mem_append, List.mem_cons] at hc
      rcases hc with hc | rfl | hc
      · exact (hplain c hc).lt
      · decide
      · exact (hpath c hc).1
  have hscheme : scheme? ('h' :: 't' :: 't' :: 'p' :: 's' :: ':' :: '/' :: '/' :: cs) =
      some ("https", '/' :: '/' :: cs) := rfl
  have hread := Host.ofSpecial_of_plain hne hplain hlabels hmeant
  have hport : hostAndPort .special "https" name = _ :=
    hostAndPort_of_name hne (splitHost_of_plain hplain) hread
  have hat : name ≠ ['@'] := by
    rintro rfl
    exact (hplain '@' (.head _)).ne (by decide) rfl
  have hkind : schemeKind "https" = .special := by decide
  refine ⟨⟨"https", "", "", some (.domain (String.ofList name)), none,
    .segments (segments .special path), none, none⟩, ?_, rfl⟩
  rw [ofText, hsignificant, hscheme]
  simp only [hkind, hslashes]
  unfold ofAuthority
  simp only [htails, hauthority, splitUser?_of_plain hplain, hport, hat]
  rw [hcs, List.drop_left]
  rfl

end PageScan.Url
