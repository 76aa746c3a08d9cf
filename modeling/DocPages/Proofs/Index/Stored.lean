import DocPages.Proofs.FileTree.Written
import DocPages.Proofs.Json.Written
import DocPages.Proofs.Loader.Shared

/-! A stored index is read back as it was, and so is one that was published: what a loader makes of
the published file is the index that was published. -/

namespace DocPages

open Json

theorem EntryKind.reads_name (kind : EntryKind) :
    Reads EntryKind.reader (writeText kind.name) kind := by
  have hname : ofName kind.name = kind := by cases kind <;> decide
  exact reads_variant (congrArg Except.ok hname)

theorem Entry.reads_write (e : Entry) : Reads Entry.shape.read e.write e :=
  Shape.reads_object (by decide) (.of (reads_text e.owner) (.of (reads_text e.name)
    (.of (reads_text e.link) (.of (reads_text e.summary) (.of e.kind.reads_name .done)))))

theorem Entry.opens_write (e : Entry) : Opens e.write := ⟨_, _, rfl, rfl, by decide⟩

namespace Index

theorem reads_write (index : Index) : Reads shape.read index.write index := by
  have hentries : Reads (readList Entry.shape.read) (writeList (index.entries.map Entry.write))
      index.entries := reads_list (fun e _ => e.reads_write) fun e _ => e.opens_write
  exact Shape.reads_object (by decide) (.of hentries .done)

theorem ofJson_toJson (index : Index) : ofJson index.toJson = .ok index :=
  parse_of_reads index.reads_write

end Index

theorem FileTree.read_of_publishIndex {t t' : FileTree} {dir : String} {index : Index}
    {notices : List Notice} (h : t.publishIndex dir index = (t', .ok (), notices)) :
    t'.read (.ofText (Path.join dir indexFile)) = .ok index.toJson := by
  unfold publishIndex at h
  split at h
  · rename_i hpublish
    cases h
    exact read_of_publish hpublish
  · cases h

namespace LoadRun

theorem pollReply_late (url : String) (fetch : String → Fetch) :
    pollReply url fetch (.load :: .replicate (fetch url).delay (.poll 0)) 0 =
      .ready (fetch url).outcome := by
  have hpolls : (reached url fetch (.load :: .replicate (fetch url).delay (.poll 0))).polls =
      (fetch url).delay :=
    (polls_replicate ((new url fetch).step .load).1 Nat.one_pos _).trans (Nat.zero_add _)
  have hgiven :
      0 < (reached url fetch (.load :: .replicate (fetch url).delay (.poll 0))).handles.length := by
    rw [length_handles_reached]
    exact List.count_pos_iff.mpr List.mem_cons_self
  have h := onCourse_reached url fetch (.load :: .replicate (fetch url).delay (.poll 0))
  -- The load has not ended, so the handle is not spent.
  have hhandle := (h.getElem?_cases hgiven).resolve_right fun hspent =>
    absurd (hpolls ▸ hspent.2) (Nat.lt_irrefl _)
  rw [pollReply, h.reply_on hhandle, hpolls, replyAfter, if_neg (Nat.lt_irrefl _)]
  rfl

end LoadRun

open LoadRun in
/-- Every index is read back from its stored form as it was, in whatever way it was built. If it is
published, the file can be read, and a loader that fetches its text, however late, gives the same
index. -/
theorem stored_index_comes_back (index : Index) :
    Index.ofJson index.toJson = .ok index ∧
    ∀ (t t' : FileTree) (dir : String) (notices : List Notice),
      t.publishIndex dir index = (t', .ok (), notices) →
      ∃ text, t'.read (.ofText (Path.join dir indexFile)) = .ok text ∧
        ∀ url delay, pollReply url (fun _ => ⟨.ok text, delay⟩)
          (.load :: .replicate delay (.poll 0)) 0 = .ready (.ok ⟨0, index⟩) := by
  refine ⟨index.ofJson_toJson, ?_⟩
  intro t t' dir notices hpublish
  refine ⟨index.toJson, FileTree.read_of_publishIndex hpublish, ?_⟩
  intro url delay
  have hreply := pollReply_late url fun _ => ⟨.ok index.toJson, delay⟩
  have houtcome : Fetch.outcome ⟨.ok index.toJson, delay⟩ = .ok ⟨0, index⟩ := by
    simp only [Fetch.outcome, index.ofJson_toJson]
  rw [houtcome] at hreply
  exact hreply

/-- An index whose texts are full of what JSON treats on its own. -/
def Index.hostile : Index :=
  ⟨[⟨"A.\"\\", "na\nme\x01", "x\u2028</script>", "<p>\t</p>", .unknown⟩,
    ⟨"", "é😀\x7f", "", "\\u0041", .enumerator⟩]⟩

theorem stored_index_comes_back_hostile :
    ∃ t' notices text,
      (FileTree.empty.put ["docs"] .directory).publishIndex "docs/./api/" .hostile =
        (t', .ok (), notices) ∧
      t'.read (.ofText (Path.join "docs/./api/" indexFile)) = .ok text ∧
      LoadRun.pollReply "api/search.json" (fun _ => ⟨.ok text, 2⟩) [.load, .poll 0, .poll 0] 0 =
        .ready (.ok ⟨0, .hostile⟩) := by
  obtain ⟨t', notices, hpublish⟩ : ∃ t' notices,
      (FileTree.empty.put ["docs"] .directory).publishIndex "docs/./api/" .hostile =
        (t', .ok (), notices) := ⟨_, _, rfl⟩
  obtain ⟨text, hread, hload⟩ := (stored_index_comes_back .hostile).2 _ _ _ _ hpublish
  exact ⟨t', notices, text, hpublish, hread, hload "api/search.json" 2⟩

end DocPages
