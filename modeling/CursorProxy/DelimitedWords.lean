import Mathlib

/-! Codes whose words end where a closing symbol follows, or nothing: from such words, put
between brackets with separators, the coded list is read back. -/
namespace CursorProxy.DelimitedWords

variable {α χ:Type*} {close:χ → Prop} {ok:α → Prop} {code:α → List χ}

def Closed (close:χ → Prop) (rest:List χ) : Prop := ∀ symbol∈rest.head?, close symbol

theorem closed_cons {symbol:χ} {rest:List χ} (h:close symbol) : Closed close (symbol::rest):=by
 intro other hother
 rw [← Option.some.inj hother]
 exact h

/-- A word begins with a symbol that closes nothing. -/
def Opens (close:χ → Prop) (word:List χ) : Prop :=
 ∃ symbol rest,word=symbol::rest ∧ ¬close symbol

/-- The word of `a` is told from every other, whatever closed rests follow. -/
def Reads (close:χ → Prop) (ok:α → Prop) (code:α → List χ) (a:α) : Prop :=
 ∀ b,ok b → ∀ u v,Closed close u → Closed close v → code a++u=code b++v → a=b ∧ u=v

theorem alphabet_reads {inner:χ → Prop} (hinner:∀ symbol,inner symbol → ¬close symbol)
 (word:List χ) : ∀ (other u v:List χ),(∀ symbol∈word,inner symbol) →
  (∀ symbol∈other,inner symbol) → Closed close u → Closed close v → word++u=other++v → word=other ∧ u=v:=by
 have hlong:∀ (symbol:χ) (rest u v:List χ),inner symbol → Closed close u → u≠(symbol::rest)++v:=by
  rintro symbol rest u v hsymbol hclosed rfl
  exact hinner symbol hsymbol (hclosed symbol rfl)
 induction word with
 | nil=>
  intro other u v _ hother hu _ heq
  cases other with
  | nil=>exact ⟨rfl,heq⟩
  | cons symbol rest=>
   exact absurd heq (hlong symbol rest u v (hother symbol List.mem_cons_self) hu)
 | cons symbol rest ih=>
  intro other u v hword hother hu hv heq
  cases other with
  | nil=>exact absurd heq.symm (hlong symbol rest v u (hword symbol List.mem_cons_self) hv)
  | cons symbol' rest'=>
   obtain ⟨rfl,htail⟩:=List.cons.inj heq
   obtain ⟨rfl,hrest⟩:=ih rest' u v (fun s hs=>hword s (List.mem_cons_of_mem _ hs))
    (fun s hs=>hother s (List.mem_cons_of_mem _ hs)) hu hv htail
   exact ⟨rfl,hrest⟩

def joined (separator:χ) : List (List χ) → List χ
 | []=>[]
 | [word]=>word
 | word::words=>word++separator::joined separator words

theorem joined_cons (separator:χ) (word:List χ) (words:List (List χ)) :
 joined separator (word::words) = word++if words.isEmpty then [] else separator::joined separator words:=by
 cases words with
 | nil=>exact (List.append_nil _).symm
 | cons=>rfl

theorem joined_rest (separator final:χ) (word:List χ) (words:List (List χ)) (u:List χ) :
 joined separator (word::words)++final::u =
  word++if words.isEmpty then final::u
   else separator::(joined separator words++final::u):=by
 rw [joined_cons,List.append_assoc]
 split <;> rfl

theorem rest_closed {separator final:χ} (hseparator:close separator) (hfinal:close final)
 (words:List (List χ)) (u:List χ) :
 Closed close (if words.isEmpty then final::u
  else separator::(joined separator words++final::u)):=by
 split
 · exact closed_cons hfinal
 · exact closed_cons hseparator

theorem joined_reads {separator final:χ} (hseparator:close separator) (hfinal:close final)
 (hne:separator≠final) (hopens:∀ a,ok a → Opens close (code a)) (items:List α) :
 ∀ (others:List α) (u v:List χ),(∀ a∈items,ok a ∧ Reads close ok code a) → (∀ b∈others,ok b) →
  joined separator (items.map code)++final::u =
   joined separator (others.map code)++final::v → items=others ∧ u=v:=by
 have hempty:∀ (a:α) (as:List α) (u v:List χ),ok a → final::u≠joined separator ((a::as).map code)++final::v:=by
  intro a as u v ha heq
  obtain ⟨symbol,tail,hword,hopen⟩:=hopens a ha
  rw [List.map_cons,joined_rest,hword] at heq
  rw [← (List.cons.inj heq).1] at hopen
  exact hopen hfinal
 induction items with
 | nil=>
  intro others u v _ hothers heq
  cases others with
  | nil=>exact ⟨rfl,(List.cons.inj heq).2⟩
  | cons b bs=>exact absurd heq (hempty b bs u v (hothers b List.mem_cons_self))
 | cons a as ih=>
  intro others u v hitems hothers heq
  obtain ⟨hok,hreads⟩:=hitems a List.mem_cons_self
  cases others with
  | nil=>exact absurd heq.symm (hempty a as v u hok)
  | cons b bs=>
   rw [List.map_cons,List.map_cons,joined_rest,joined_rest] at heq
   obtain ⟨rfl,hrest⟩:=hreads b (hothers b List.mem_cons_self) _ _
    (rest_closed hseparator hfinal _ _) (rest_closed hseparator hfinal _ _) heq
   rw [List.isEmpty_map,List.isEmpty_map] at hrest
   cases as with
   | nil=>
    cases bs with
    | nil=>exact ⟨rfl,(List.cons.inj hrest).2⟩
    | cons=>exact absurd (List.cons.inj hrest).1 hne.symm
   | cons a' as'=>
    cases bs with
    | nil=>exact absurd (List.cons.inj hrest).1 hne
    | cons b' bs'=>
     obtain ⟨hsame,htail⟩:=ih (b'::bs') u v (fun a ha=>hitems a (List.mem_cons_of_mem _ ha))
      (fun b hb=>hothers b (List.mem_cons_of_mem _ hb)) (List.cons.inj hrest).2
     exact ⟨congrArg (List.cons a) hsame,htail⟩

end CursorProxy.DelimitedWords
