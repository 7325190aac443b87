import Mathlib

/-! A scan passes over the input up to the first place where it stops: at a word it looks for, or
where what is left may yet become one. A scan that stops early enough passes the same input
however it is cut. -/
namespace CursorProxy.CautiousScan

variable {α:Type*}

def gap (stops:List α → Bool) : List α → List α
 | []=>[]
 | a::as=>if stops (a::as) then [] else a::gap stops as

def rest (stops:List α → Bool) : List α → List α
 | []=>[]
 | a::as=>if stops (a::as) then a::as else rest stops as

/-- Later input stops a scan only where it would have stopped before. -/
def Cautious (stops:List α → Bool) : Prop :=
 ∀ a as xs,stops (a::as++xs)=true → stops (a::as)=true

section
variable {stops:List α → Bool}

@[simp] theorem gap_append_rest (stops:List α → Bool) (as:List α) : gap stops as++rest stops as=as:=by
 induction as with
 | nil=>rfl
 | cons a as ih=>
  unfold gap rest
  split_ifs
  · rfl
  · rw [List.cons_append,ih]

variable {a:α} {as:List α}

theorem gap_stopped (h:stops (a::as)=true) : gap stops (a::as)=[] := if_pos h

theorem rest_stopped (h:stops (a::as)=true) : rest stops (a::as)=a::as := if_pos h

theorem gap_passed (h:stops (a::as)=false) : gap stops (a::as)=a::gap stops as := if_neg (Bool.eq_false_iff.mp h)

theorem rest_passed (h:stops (a::as)=false) : rest stops (a::as)=rest stops as := if_neg (Bool.eq_false_iff.mp h)

theorem rest_suffix (stops:List α → Bool) (as:List α) : rest stops as <:+ as :=
 ⟨gap stops as,gap_append_rest stops as⟩

theorem rest_nil_or_stops (stops:List α → Bool) (as:List α) : rest stops as=[] ∨ stops (rest stops as)=true:=by
 induction as with
 | nil=>exact .inl rfl
 | cons a as ih=>
  by_cases h:stops (a::as)=true
  · rw [rest_stopped h]
    exact .inr h
  · rw [rest_passed (Bool.eq_false_iff.mpr h)]
    exact ih

@[simp] theorem rest_rest (stops:List α → Bool) (as:List α) : rest stops (rest stops as)=rest stops as:=by
 rcases rest_nil_or_stops stops as with hnil | hstops
 · rw [hnil]
   rfl
 · cases hrest:rest stops as with
   | nil=>rfl
   | cons b bs=>
    rw [hrest] at hstops
    exact rest_stopped hstops

@[simp] theorem gap_rest (stops:List α → Bool) (as:List α) : gap stops (rest stops as)=[]:=by
 have hsplit:=gap_append_rest stops (rest stops as)
 rw [rest_rest] at hsplit
 exact List.append_left_eq_self.mp hsplit

theorem gap_rest_of_passed (ws xs:List α) (h:∀ b bs,b::bs <:+ ws → stops (b::bs++xs)=false) :
 gap stops (ws++xs)=ws++gap stops xs ∧ rest stops (ws++xs)=rest stops xs:=by
 induction ws with
 | nil=>exact ⟨rfl,rfl⟩
 | cons w ws ih=>
  obtain ⟨hgap,hrest⟩:=ih fun b bs hsuffix=>h b bs (hsuffix.trans (List.suffix_cons w ws))
  have hpass:stops (w::(ws++xs))=false:=h w ws (List.suffix_refl _)
  rw [List.cons_append,gap_passed hpass,rest_passed hpass,hgap,hrest]
  exact ⟨rfl,rfl⟩

theorem length_le_rest {b:α} {bs:List α} (hsuffix:b::bs <:+ as)
 (hstops:stops (b::bs)=true) : (b::bs).length ≤ (rest stops as).length:=by
 induction as with
 | nil=>exact absurd (List.suffix_nil.mp hsuffix) (by simp)
 | cons a as ih=>
  by_cases h:stops (a::as)=true
  · rw [rest_stopped h]
    exact hsuffix.length_le
  · rw [rest_passed (Bool.eq_false_iff.mpr h)]
    rcases List.suffix_cons_iff.mp hsuffix with heq | htail
    · exact absurd (heq ▸ hstops) h
    · exact ih htail

theorem rest_append (hcautious:Cautious stops) (as xs:List α) :
 gap stops (as++xs)=gap stops as++gap stops (rest stops as++xs) ∧
  rest stops (as++xs)=rest stops (rest stops as++xs):=by
 induction as with
 | nil=>exact ⟨rfl,rfl⟩
 | cons a as ih=>
  by_cases h:stops (a::as)=true
  · rw [gap_stopped h,rest_stopped h]
    exact ⟨rfl,rfl⟩
  · rw [Bool.not_eq_true] at h
    have hpass:stops (a::(as++xs))=false :=
     Bool.eq_false_iff.mpr fun hstops=>Bool.eq_false_iff.mp h (hcautious a as xs hstops)
    rw [List.cons_append,gap_passed hpass,rest_passed hpass,gap_passed h,rest_passed h,ih.1,ih.2]
    exact ⟨rfl,rfl⟩

end

theorem le_foldr_max {length:ℕ} {lengths:List ℕ} (h:length∈lengths) : length ≤ lengths.foldr max 0:=by
 induction lengths with
 | nil=>exact absurd h List.not_mem_nil
 | cons first lengths ih=>
  rw [List.foldr_cons]
  rcases List.mem_cons.mp h with rfl | hmem
  · exact Nat.le_max_left _ _
  · exact (ih hmem).trans (Nat.le_max_right _ _)

theorem foldr_max_mem (lengths:List ℕ) : lengths.foldr max 0=0 ∨ lengths.foldr max 0∈lengths:=by
 induction lengths with
 | nil=>exact .inl rfl
 | cons first lengths ih=>
  rw [List.foldr_cons]
  rcases Nat.le_total first (lengths.foldr max 0) with hle | hle
  · rw [Nat.max_eq_right hle]
    exact ih.imp_right (List.mem_cons_of_mem first)
  · rw [Nat.max_eq_left hle]
    exact .inr List.mem_cons_self

theorem not_prefix_append {word as xs:List α} (h:¬word <+: as) (hlength:word.length ≤ as.length) : ¬word <+: as++xs :=
 fun hfront=>h (List.prefix_of_prefix_length_le hfront (List.prefix_append as xs) hlength)

section
variable [DecidableEq α]

def find (word:List α) : List α → Option ℕ
 | []=>if word.isEmpty then some 0 else none
 | a::as=>if word.isPrefixOf (a::as) then some 0 else (find word as).map (· + 1)

variable {word as:List α} {place:ℕ}

theorem find_length (h:find word as=some place) : place+word.length ≤ as.length:=by
 induction as generalizing place with
 | nil=>
  unfold find at h
  split_ifs at h with hempty
  obtain rfl:=Option.some.inj h
  rw [List.isEmpty_iff.mp hempty]
  exact Nat.le_refl _
 | cons a as ih=>
  unfold find at h
  split_ifs at h with hfront
  · obtain rfl:=Option.some.inj h
    rw [Nat.zero_add]
    exact (List.isPrefixOf_iff_prefix.mp hfront).length_le
  · obtain ⟨place,hplace,rfl⟩:=Option.map_eq_some_iff.mp h
    have:=ih hplace
    rw [List.length_cons]
    omega

theorem find_append (xs:List α) (h:find word as=some place) : find word (as++xs)=some place:=by
 induction as generalizing place with
 | nil=>
  unfold find at h
  split_ifs at h with hempty
  obtain rfl:=Option.some.inj h
  obtain rfl:=List.isEmpty_iff.mp hempty
  cases xs <;> rfl
 | cons a as ih=>
  unfold find at h
  split_ifs at h with hfront
  · obtain rfl:=Option.some.inj h
    rw [List.isPrefixOf_iff_prefix] at hfront
    exact if_pos (List.isPrefixOf_iff_prefix.mpr (hfront.trans (List.prefix_append _ _)))
  · obtain ⟨place,hplace,rfl⟩:=Option.map_eq_some_iff.mp h
    rw [List.isPrefixOf_iff_prefix] at hfront
    have hlength:=find_length hplace
    have hlater:¬word.isPrefixOf (a::(as++xs))=true:=by
     rw [List.isPrefixOf_iff_prefix]
     exact not_prefix_append hfront (by rw [List.length_cons]; omega)
    rw [List.cons_append,find,if_neg hlater,ih hplace]
    rfl

theorem find_single {a:α} (before after:List α) (h:a ∉ before) : find [a] (before++a::after)=some before.length:=by
 induction before with
 | nil=>exact if_pos (by simp [List.isPrefixOf])
 | cons b rest ih=>
  rw [List.mem_cons,not_or] at h
  have hother:¬[a].isPrefixOf (b::(rest++a::after))=true:=by
   intro hfront
   exact h.1 (List.cons_prefix_cons.mp (List.isPrefixOf_iff_prefix.mp hfront)).1
  rw [List.cons_append,find,if_neg hother,ih h.2]
  rfl

theorem of_find_single {a:α} (h:find [a] as=some place) :
 as=as.take place++a::as.drop (place+1) ∧ a ∉ as.take place:=by
 induction as generalizing place with
 | nil=>exact (nomatch h)
 | cons b rest ih=>
  unfold find at h
  split_ifs at h with hfront
  · obtain rfl:=Option.some.inj h
    obtain ⟨rfl,-⟩:=List.cons_prefix_cons.mp (List.isPrefixOf_iff_prefix.mp hfront)
    exact ⟨rfl,nofun⟩
  · obtain ⟨place,hplace,rfl⟩:=Option.map_eq_some_iff.mp h
    obtain ⟨hsplit,hnot⟩:=ih hplace
    have hother:a≠b:=by
     rintro rfl
     exact hfront (by simp [List.isPrefixOf])
    refine ⟨congrArg (b :: ·) hsplit,fun hmem=>?_⟩
    exact (List.mem_cons.mp hmem).elim hother hnot

/-- The longest tail of the value, up to a length, with which the marker begins. -/
def endingLength (value marker:List α) : ℕ → ℕ
 | 0=>0
 | length+1=>
  if (marker.take (length+1)).isSuffixOf value then length+1
  else endingLength value marker length

theorem endingLength_suffix (value marker:List α) (limit:ℕ) :
 endingLength value marker limit ≤ limit ∧ marker.take (endingLength value marker limit) <:+ value:=by
 induction limit with
 | zero=>exact ⟨Nat.le_refl _,List.nil_suffix⟩
 | succ length ih=>
  unfold endingLength
  split_ifs with hsuffix
  · exact ⟨Nat.le_refl _,List.isSuffixOf_iff_suffix.mp hsuffix⟩
  · exact ⟨Nat.le_succ_of_le ih.1,ih.2⟩

variable {value marker:List α}

theorem le_endingLength {limit length:ℕ} (hlimit:length ≤ limit)
 (hsuffix:marker.take length <:+ value) : length ≤ endingLength value marker limit:=by
 induction limit with
 | zero=>exact hlimit
 | succ limit ih=>
  unfold endingLength
  split_ifs with hlonger
  · exact hlimit
  · rcases Nat.le_or_eq_of_le_succ hlimit with hle | rfl
    · exact ih hle
    · exact absurd (List.isSuffixOf_iff_suffix.mpr hsuffix) hlonger

/-- The value ends in the beginning of the marker, short of the whole marker. -/
def prefixSuffixLength (value marker:List α) : ℕ :=
 endingLength value marker (min (marker.length-1) value.length)

/-- A nonempty text with which the marker begins, short of the whole marker. -/
def Begins (marker tail:List α) : Prop :=
 tail≠[] ∧ tail <+: marker ∧ tail.length < marker.length

theorem le_prefixSuffixLength {tail:List α} (hsuffix:tail <:+ value)
 (hbegins:Begins marker tail) : tail.length ≤ prefixSuffixLength value marker:=by
 obtain ⟨_,hfront,hlength⟩:=hbegins
 refine le_endingLength (le_min (by omega) hsuffix.length_le) ?_
 rw [← List.prefix_iff_eq_take.mp hfront]
 exact hsuffix

theorem begins_drop (h:prefixSuffixLength value marker≠0) :
 Begins marker (value.drop (value.length-prefixSuffixLength value marker)) ∧
  prefixSuffixLength value marker ≤ value.length:=by
 obtain ⟨hlimit,hsuffix⟩ :=
  endingLength_suffix value marker (min (marker.length-1) value.length)
 change prefixSuffixLength value marker ≤ _ at hlimit
 change marker.take (prefixSuffixLength value marker) <:+ value at hsuffix
 generalize prefixSuffixLength value marker=held at *
 have hlength:(marker.take held).length=held:=by
  rw [List.length_take]
  omega
 have htail:value.drop (value.length-held)=marker.take held:=by
  obtain ⟨front,rfl⟩:=hsuffix
  rw [List.length_append,hlength,Nat.add_sub_cancel,List.drop_left]
 rw [htail]
 refine ⟨⟨?_, List.take_prefix held marker,by omega⟩,by omega⟩
 intro hnil
 rw [hnil] at hlength
 exact h hlength.symm

theorem find_append_of_skipped {front xs:List α} (h:∀ c cs,c::cs <:+ front → ¬word <+: c::cs++xs) :
 find word (front++xs)=(find word xs).map (· + front.length):=by
 induction front with
 | nil=>exact (congrFun Option.map_id (find word xs)).symm
 | cons a front ih=>
  have hlater:=ih fun c cs hsuffix=>h c cs (hsuffix.trans (List.suffix_cons a front))
  have hhere:¬word.isPrefixOf (a::(front++xs))=true:=by
   rw [List.isPrefixOf_iff_prefix]
   exact h a front (List.suffix_refl _)
  rw [List.cons_append,find,if_neg hhere,hlater,Option.map_map]
  rfl

theorem not_prefix_of_find_none (h:find word as=none) {c:α} {cs:List α} (hsuffix:c::cs <:+ as) : ¬word <+: c::cs:=by
 induction as with
 | nil=>exact absurd (List.suffix_nil.mp hsuffix) (List.cons_ne_nil c cs)
 | cons a as ih=>
  unfold find at h
  split_ifs at h with hfront
  rcases List.suffix_cons_iff.mp hsuffix with heq | htail
  · rw [heq]
    exact fun hword=>hfront (List.isPrefixOf_iff_prefix.mpr hword)
  · exact ih (Option.map_eq_none_iff.mp h) htail

theorem find_append_of_held (h:find word as=none) (xs:List α) :
 find word (as++xs) =
  (find word (as.drop (as.length-prefixSuffixLength as word)++xs)).map
   (· + (as.length-prefixSuffixLength as word)):=by
 have hheld:prefixSuffixLength as word ≤ as.length:=by
  by_cases hzero:prefixSuffixLength as word=0
  · omega
  · exact (begins_drop hzero).2
 generalize hpassed : as.length-prefixSuffixLength as word=passed at *
 have hfront:(as.take passed).length=passed:=by
  rw [List.length_take]
  omega
 have hskipped:find word (as.take passed++(as.drop passed++xs)) =
  (find word (as.drop passed++xs)).map (· + (as.take passed).length):=by
  refine find_append_of_skipped fun c cs hsuffix hword=>?_
  obtain ⟨before,hbefore⟩:=hsuffix
  have htail:c::cs++as.drop passed <:+ as :=
   ⟨before,by rw [← List.append_assoc,hbefore,List.take_append_drop]⟩
  rw [← List.append_assoc] at hword
  -- either the word ends in the text that is there or the rest of that text begins it
  by_cases hlength:word.length ≤ (c::cs++as.drop passed).length
  · exact not_prefix_of_find_none h htail (List.prefix_of_prefix_length_le hword (List.prefix_append _ xs) hlength)
  · have hbegins:Begins word (c::cs++as.drop passed) :=
     ⟨List.cons_ne_nil _ _,List.prefix_of_prefix_length_le (List.prefix_append _ xs) hword
      (Nat.le_of_not_le hlength),Nat.lt_of_not_le hlength⟩
    have hlong:=le_prefixSuffixLength htail hbegins
    rw [List.length_append,List.length_cons,List.length_drop] at hlong
    omega
 rw [← List.append_assoc,List.take_append_drop,hfront] at hskipped
 exact hskipped

end

end CursorProxy.CautiousScan
