import DocPages.Proofs.Json.Taken

/-! Lists, variants and records, in whatever way they are spelled. A record is made of the values of
its fields: the members are looked at one after the other, and those of other names do not count. -/

namespace DocPages.Json

section Lists

variable {α : Type} {ws : List Char}

theorem nextElement_end (hws : Blank ws) (first : Bool) (rest : List Char) :
    nextElement first (ws ++ ']' :: rest) = .ok (false, ']' :: rest) := by
  rw [nextElement, hws.skipBlanks_append]
  rfl

theorem nextElement_first (hws : Blank ws) {c : Char} (hc : isBlank c = false) (hne : c ≠ ']')
    (cs : List Char) : nextElement true (ws ++ c :: cs) = .ok (true, c :: cs) := by
  rw [nextElement, hws.skipBlanks_append, skipBlanks_cons hc]
  simp

theorem Items.nextElement_comma {items : List Datum} {text : List Char}
    (h : Items Spells items text) (hws : Blank ws) (rest : List Char) :
    nextElement false (ws ++ ',' :: (text ++ rest)) = nextElement true (text ++ rest) := by
  obtain ⟨ws', c, cs, hws', rfl, hc, hne⟩ := h.head fun v t hv => hv.opens
  have hcomma (cs : List Char) : skipBlanks (',' :: cs) = ',' :: cs := rfl
  rw [List.append_assoc, List.cons_append, nextElement_first hws' hc hne, nextElement,
    hws.skipBlanks_append, hcomma]
  simp [hws'.skipBlanks_append, skipBlanks_cons hc, hne]

variable {element : Reader α}

theorem readElements_end (hws : Blank ws) (fuel : Nat) (first : Bool) (rest : List Char) :
    readElements element (fuel + 1) first (ws ++ ']' :: rest) = .ok ([], rest) := by
  rw [readElements, nextElement_end hws]
  rfl

theorem toOption_readElements_cons {v : Datum} {result : Option α} (h : Takes element v result)
    (hws : Blank ws) {text rest : List Char} (hv : Spells v text) (hrest : Stops rest)
    (fuel : Nat) :
    (readElements element (fuel + 1) true (ws ++ (text ++ rest))).toOption =
      result.bind fun x => (readElements element fuel false rest).toOption.map fun y =>
        (x :: y.1, y.2) := by
  have hread := h.cases (show Blank [] from nofun) hv hrest
  obtain ⟨c, cs, rfl, hc, hne⟩ := hv.opens
  rw [List.cons_append, readElements, nextElement_first hws hc hne]
  obtain ⟨rfl, f, hf⟩ | ⟨x, rfl, hx⟩ := hread
  · simp only [List.cons_append, List.nil_append] at hf
    simp only [hf]
    rfl
  · simp only [List.cons_append, List.nil_append] at hx
    simp only [hx]
    cases readElements element fuel false rest with
    | error f => rfl
    | ok y => rfl

/-- Each element is read, and none of them is left out. -/
theorem toOption_readElements {sense : Datum → Option α} {items : List Datum}
    (hsense : ∀ v ∈ items, Takes element v (sense v)) {text : List Char}
    (h : Items Spells items text) {fuel : Nat} (hfuel : items.length < fuel) (rest : List Char) :
    (readElements element fuel true (text ++ ']' :: rest)).toOption =
      (items.mapM sense).map fun xs => (xs, rest) := by
  induction h generalizing fuel with
  | @one v ws t ws' hws hv hws' =>
    obtain ⟨fuel, rfl⟩ : ∃ m, fuel = m + 2 := ⟨fuel - 2, by simp at hfuel; omega⟩
    rw [List.append_assoc, List.append_assoc, toOption_readElements_cons (hsense v (by simp)) hws hv
      (hws'.stops_append (stops_cons (by simp) rest)), readElements_end hws']
    cases hx : sense v <;> simp [hx, Except.toOption]
  | @more v items ws t ws' more hws hv hws' hmore ih =>
    obtain ⟨fuel, rfl⟩ : ∃ m, fuel = m + 2 := ⟨fuel - 2, by simp at hfuel; omega⟩
    obtain ⟨hhead, htail⟩ := List.forall_mem_cons.mp hsense
    have hcomma : readElements element (fuel + 1) false (ws' ++ ',' :: (more ++ ']' :: rest)) =
        readElements element (fuel + 1) true (more ++ ']' :: rest) := by
      rw [readElements, readElements, hmore.nextElement_comma hws']
    simp only [List.append_assoc, List.cons_append]
    rw [toOption_readElements_cons hhead hws hv (hws'.stops_append (stops_cons (by simp) _)),
      hcomma, ih htail (by simpa using hfuel)]
    cases hx : sense v <;> cases hxs : items.mapM sense <;> simp [hx, hxs]

theorem Items.length_le {P : α → List Char → Prop} {xs : List α} {text : List Char}
    (h : Items P xs text) (hP : ∀ x t, P x t → t ≠ []) : xs.length ≤ text.length := by
  induction h with
  | @one x ws t ws' _ hx _ =>
    have hpos := List.length_pos_iff.mpr (hP x t hx)
    simp only [List.length_append, List.length_singleton]
    omega
  | @more x xs ws t ws' rest _ hx _ _ ih =>
    simp only [List.length_append, List.length_cons]
    omega

theorem takes_list {sense : Datum → Option α} {items : List Datum}
    (h : ∀ v ∈ items, Takes element v (sense v)) :
    Takes (readList element) (.list items) (items.mapM sense) := by
  refine takes_of_skips (fun cs => ?_) fun text rest hv _ => ?_
  · simp only [readList, skipBlanks_skipBlanks]
  · have hopen (cs : List Char) :
        readList element ('[' :: cs) = readElements element (cs.length + 1) true cs := rfl
    cases hv with
    | emptyList hws =>
      rw [List.cons_append, List.append_assoc, hopen, List.singleton_append, readElements_end hws]
      rfl
    | @list items text hitems =>
      rw [List.cons_append, List.append_assoc, hopen, List.singleton_append]
      have hle := hitems.length_le fun v t hv => by
        obtain ⟨c, cs, rfl, -⟩ := hv.opens
        exact List.cons_ne_nil c cs
      refine toOption_readElements h hitems ?_ rest
      rw [List.length_append]
      omega

end Lists

section Members

variable {ws : List Char}

theorem nextKey_end (hws : Blank ws) (first : Bool) (rest : List Char) :
    nextKey first (ws ++ '\x7d' :: rest) = .ok (false, '\x7d' :: rest) := by
  rw [nextKey, hws.skipBlanks_append]
  rfl

theorem nextKey_first (hws : Blank ws) (cs : List Char) :
    nextKey true (ws ++ '\x22' :: cs) = .ok (true, cs) := by
  rw [nextKey, hws.skipBlanks_append]
  rfl

theorem Items.nextKey_comma {members : List (String × Datum)} {text : List Char}
    (h : Items (Member Spells) members text) (hws : Blank ws) (rest : List Char) :
    nextKey false (ws ++ ',' :: (text ++ rest)) = nextKey true (text ++ rest) := by
  have hquote : ∀ m t, Member Spells m t → ∃ c cs, t = c :: cs ∧ c = '\x22' := by
    rintro m t ⟨⟩
    exact ⟨_, _, rfl, rfl⟩
  obtain ⟨ws', c, cs, hws', rfl, rfl⟩ := h.head hquote
  have hcomma (cs : List Char) : skipBlanks (',' :: cs) = ',' :: cs := rfl
  have hskip (cs : List Char) : skipBlanks ('\x22' :: cs) = '\x22' :: cs := rfl
  rw [List.append_assoc, List.cons_append, nextKey_first hws', nextKey, hws.skipBlanks_append,
    hcomma]
  simp [hws'.skipBlanks_append, hskip]

theorem readColon_blanks (hws : Blank ws) (cs : List Char) :
    readColon (ws ++ ':' :: cs) = .ok cs := by
  rw [readColon, hws.skipBlanks_append]
  rfl

end Members

section Variants

variable {α : Type}

theorem readVariant_text (choose : String → Except Cause α) {s : String} {body : List Char}
    (h : Quoted s.toList body) (rest : List Char) :
    (readVariant choose ('\x22' :: (body ++ '\x22' :: rest))).toOption =
      (choose s).toOption.map fun x => (x, rest) := by
  have hskip (cs : List Char) : skipBlanks ('\x22' :: cs) = '\x22' :: cs := rfl
  simp only [readVariant, hskip, h.readChars_append, String.ofList_toList]
  cases choose s <;> rfl

/-- The first member of an object names the variant, and then the object has to end. -/
theorem readVariant_member (choose : String → Except Cause α) {key : String} {v : Datum}
    {ws text rest : List Char} (hws : Blank ws) (hm : Member Spells (key, v) text)
    (hrest : Stops rest) :
    (readVariant choose ('\x7b' :: (ws ++ (text ++ rest)))).toOption =
      (choose key).toOption.bind fun x => v.null?.bind fun _ =>
        match skipBlanks rest with
        | '\x7d' :: rest => some (x, rest)
        | _ => none := by
  obtain ⟨hkey, hcolon, hblank, hv⟩ := hm
  have hbrace (cs : List Char) : skipBlanks ('\x7b' :: cs) = '\x7b' :: cs := rfl
  have hquote (cs : List Char) : skipBlanks ('\x22' :: cs) = '\x22' :: cs := rfl
  simp only [readVariant, hbrace, hws.skipBlanks_append, List.cons_append, List.append_assoc,
    hquote, hkey.readChars_append, bind, Except.bind, String.ofList_toList]
  cases choose key with
  | error cause => rfl
  | ok x =>
    obtain ⟨hnone, f, hf⟩ | ⟨u, hsome, hu⟩ := (takes_null v).cases hblank hv hrest
    · simp only [readColon_blanks hcolon, hf, hnone]
      rfl
    · simp only [readColon_blanks hcolon, hu, hsome]
      cases skipBlanks rest with
      | nil => rfl
      | cons c cs =>
        by_cases hc : c = '\x7d'
        · subst hc
          rfl
        · simp [hc, Except.toOption]

theorem takes_variant (choose : String → Except Cause α) (v : Datum) :
    Takes (readVariant choose) v (v.variant?.bind fun s => (choose s).toOption) := by
  refine takes_of_skips (fun cs => ?_) fun text rest h hrest => ?_
  · simp only [readVariant, skipBlanks_skipBlanks]
  · have herror (hv : ∀ c, v.Starts c → ¬ (c = '\x22' ∨ c = '\x7b')) :
        (readVariant choose (text ++ rest)).toOption = none := by
      refine toOption_of_not_starts (fun c cs hc hne => ?_) hv h rest
      rw [not_or] at hne
      simp [readVariant, skipBlanks_cons hc, hne, Except.toOption]
    cases h with
    | text hbody =>
      rw [List.cons_append, List.append_assoc, List.singleton_append, readVariant_text choose hbody]
      rfl
    | @emptyObject ws hws =>
      have hend : skipBlanks (ws ++ '\x7d' :: rest) = '\x7d' :: rest := hws.skipBlanks_append _
      have hbrace (cs : List Char) : skipBlanks ('\x7b' :: cs) = '\x7b' :: cs := rfl
      rw [List.cons_append, List.append_assoc, List.singleton_append]
      simp only [readVariant, hbrace, hend]
      rfl
    | object hmembers =>
      rw [List.cons_append, List.append_assoc, List.singleton_append]
      cases hmembers with
      | @one m ws t ws' hws hm hws' =>
        obtain ⟨key, x⟩ := m
        have hend : skipBlanks (ws' ++ '\x7d' :: rest) = '\x7d' :: rest :=
          hws'.skipBlanks_append _
        rw [List.append_assoc, List.append_assoc, readVariant_member choose hws hm
          (hws'.stops_append (stops_cons (by simp) rest)), hend]
        cases hname : (choose key).toOption <;>
          cases x <;> simp [Datum.variant?, Datum.null?, hname]
      | @more m members ws t ws' more hws hm hws' hmore =>
        obtain ⟨key, x⟩ := m
        have hcomma (cs : List Char) : skipBlanks (ws' ++ ',' :: cs) = ',' :: cs :=
          hws'.skipBlanks_append _
        have hnone : Datum.variant? (.object ((key, x) :: members)) = none := by
          cases hmore <;> simp [Datum.variant?]
        simp only [List.append_assoc, List.cons_append]
        rw [readVariant_member choose hws hm (hws'.stops_append (stops_cons (by simp) _)), hcomma,
          hnone]
        cases (choose key).toOption <;> cases x.null? <;> rfl
    | _ =>
      refine herror ?_
      rintro c hc (rfl | rfl) <;> cases hc

end Variants

namespace Shape

variable {ρ : Type} (shape : Shape ρ)

def names : List String := shape.fields.map (·.name)

/-- The record that members make, given what the fields make of their values. Members of other names
do not count, and no field may come twice. -/
def fill (sense : String → ρ → Datum → Option ρ) (seen : List String) (r : ρ) :
    List (String × Datum) → Option ρ
  | [] => if (shape.missing? seen).isSome then none else some r
  | (key, v) :: members =>
    if key ∈ shape.names then
      if key ∈ seen then none
      else (sense key r v).bind fun r => fill sense (key :: seen) r members
    else fill sense seen r members

variable {shape} {sense : String → ρ → Datum → Option ρ} {seen : List String} {r : ρ}

theorem toOption_readMembers_nil {ws : List Char} (hws : Blank ws) (fuel : Nat) (first : Bool)
    (rest : List Char) :
    (shape.readMembers (fuel + 1) first seen r (ws ++ '\x7d' :: rest)).toOption =
      (shape.fill sense seen r []).map fun x => (x, '\x7d' :: rest) := by
  rw [readMembers, nextKey_end hws, fill]
  dsimp only
  cases shape.missing? seen <;> rfl

/-- One member is read as a field, passed over or refused. -/
theorem toOption_readMembers_cons {key : String} {v : Datum}
    (hsense : ∀ field ∈ shape.fields, field.name = key →
      ∀ r, Takes (field.read r) v (sense key r v))
    {ws text rest : List Char} (hws : Blank ws) (hm : Member Spells (key, v) text)
    (hrest : Stops rest) (fuel : Nat) :
    (shape.readMembers (fuel + 1) true seen r (ws ++ (text ++ rest))).toOption =
      if key ∈ shape.names then
        if key ∈ seen then none
        else (sense key r v).bind fun r =>
          (shape.readMembers fuel false (key :: seen) r rest).toOption
      else (shape.readMembers fuel false seen r rest).toOption := by
  obtain ⟨hkey, hcolon, hblank, hv⟩ := hm
  simp only [List.cons_append, List.append_assoc]
  rw [readMembers, nextKey_first hws]
  simp only [hkey.readChars_append, String.ofList_toList]
  cases hfind : shape.fields.find? fun field => field.name == key with
  | none =>
    have hnot : key ∉ shape.names := by
      rw [names, List.mem_map]
      rintro ⟨field, hfield, rfl⟩
      simpa using List.find?_eq_none.mp hfind field hfield
    simp only [readColon_blanks hcolon, hv.skipValue_eq hblank hrest, if_neg hnot]
  | some field =>
    have hmem := List.mem_of_find?_eq_some hfind
    have hname : field.name = key := by simpa using List.find?_some hfind
    subst hname
    have hin : field.name ∈ shape.names := List.mem_map_of_mem hmem
    by_cases hseen : field.name ∈ seen
    · simp [hin, hseen, Except.toOption]
    · simp only [hin, hseen, List.contains_eq_mem, decide_false, Bool.false_eq_true, if_true,
        if_false, readColon_blanks hcolon]
      obtain ⟨hnone, f, hf⟩ | ⟨x, hsome, hx⟩ := (hsense field hmem rfl r).cases hblank hv hrest
      · rw [hf, hnone]
        rfl
      · rw [hx, hsome]
        rfl

theorem toOption_readMembers {members : List (String × Datum)} {text : List Char}
    (h : Items (Member Spells) members text)
    (hsense : ∀ field ∈ shape.fields, ∀ v, (field.name, v) ∈ members →
      ∀ r, Takes (field.read r) v (sense field.name r v))
    {fuel : Nat} (hfuel : members.length < fuel) (rest : List Char) :
    (shape.readMembers fuel true seen r (text ++ '\x7d' :: rest)).toOption =
      (shape.fill sense seen r members).map fun x => (x, '\x7d' :: rest) := by
  have hcons {key : String} {v : Datum} {members : List (String × Datum)}
      (hsense : ∀ field ∈ shape.fields, ∀ w, (field.name, w) ∈ (key, v) :: members →
        ∀ r, Takes (field.read r) w (sense field.name r w)) :
      ∀ field ∈ shape.fields, field.name = key → ∀ r, Takes (field.read r) v (sense key r v) := by
    rintro field hfield rfl
    exact hsense field hfield v List.mem_cons_self
  induction h generalizing fuel seen r with
  | @one m ws t ws' hws hm hws' =>
    obtain ⟨fuel, rfl⟩ : ∃ k, fuel = k + 2 := ⟨fuel - 2, by simp at hfuel; omega⟩
    obtain ⟨key, v⟩ := m
    have hend (seen : List String) (r : ρ) :
        (shape.readMembers (fuel + 1) false seen r (ws' ++ '\x7d' :: rest)).toOption =
          (shape.fill sense seen r []).map fun x => (x, '\x7d' :: rest) :=
      toOption_readMembers_nil hws' fuel false rest
    rw [List.append_assoc, List.append_assoc, toOption_readMembers_cons (hcons hsense) hws hm
      (hws'.stops_append (stops_cons (by simp) rest)), fill]
    simp only [hend]
    split_ifs
    · rfl
    · cases sense key r v <;> rfl
    · rfl
  | @more m members ws t ws' more hws hm hws' hmore ih =>
    obtain ⟨fuel, rfl⟩ : ∃ k, fuel = k + 2 := ⟨fuel - 2, by simp at hfuel; omega⟩
    obtain ⟨key, v⟩ := m
    have hcomma (seen : List String) (r : ρ) :
        shape.readMembers (fuel + 1) false seen r (ws' ++ ',' :: (more ++ '\x7d' :: rest)) =
          shape.readMembers (fuel + 1) true seen r (more ++ '\x7d' :: rest) := by
      rw [readMembers, readMembers, hmore.nextKey_comma hws']
    have hrest (seen : List String) (r : ρ) :=
      @ih seen r (fun f hf w hw => hsense f hf w (List.mem_cons_of_mem _ hw)) (fuel + 1)
        (by simpa using hfuel)
    simp only [List.append_assoc, List.cons_append]
    rw [toOption_readMembers_cons (hcons hsense) hws hm
      (hws'.stops_append (stops_cons (by simp) _)), fill]
    simp only [hcomma, hrest]
    split_ifs
    · rfl
    · cases sense key r v <;> rfl
    · rfl

theorem toOption_finish {x : Except Issue (ρ × List Char)} {result : Option ρ} {rest : List Char}
    (h : x.toOption = result.map fun r => (r, '\x7d' :: rest)) :
    (finish closeObject x).toOption = result.map fun r => (r, rest) := by
  cases x with
  | error issue =>
    obtain rfl := Option.map_eq_none_iff.mp h.symm
    cases issue <;> rfl
  | ok y =>
    obtain ⟨r, rfl, rfl⟩ := Option.map_eq_some_iff.mp h.symm
    rfl

/-- What a record is made of: the values of its fields, whatever stands between them. -/
theorem takes_object {members : List (String × Datum)}
    (h : ∀ field ∈ shape.fields, ∀ v, (field.name, v) ∈ members →
      ∀ r, Takes (field.read r) v (sense field.name r v)) :
    Takes shape.read (.object members) (shape.fill sense [] shape.blank members) := by
  refine takes_of_skips (fun cs => ?_) fun text rest hv _ => ?_
  · simp only [read, skipBlanks_skipBlanks]
  · have hopen (cs : List Char) : shape.read ('\x7b' :: cs) =
        finish closeObject (shape.readMembers (cs.length + 1) true [] shape.blank cs) := rfl
    cases hv with
    | emptyObject hws =>
      rw [List.cons_append, List.append_assoc, hopen, List.singleton_append]
      exact toOption_finish (toOption_readMembers_nil hws _ _ _)
    | object hmembers =>
      rw [List.cons_append, List.append_assoc, hopen, List.singleton_append]
      have hle := hmembers.length_le fun m t hm => by
        obtain ⟨⟩ := hm
        exact List.cons_ne_nil _ _
      refine toOption_finish (toOption_readMembers hmembers h ?_ rest)
      rw [List.length_append]
      omega

end Shape

theorem takes_field {ρ α : Type} {read : Reader α} {v : Datum} {result : Option α}
    (h : Takes read v result) (name : String) (set : ρ → α → ρ) (r : ρ) :
    Takes ((Field.of name read set).read r) v (result.map (set r)) := by
  intro ws text rest hws hv hrest
  obtain ⟨rfl, f, hf⟩ | ⟨x, rfl, hx⟩ := h.cases hws hv hrest
  · simp [Field.of, hf, Except.toOption]
  · simp [Field.of, hx, Except.toOption]

end DocPages.Json
