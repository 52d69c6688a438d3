import Ovi.Tools.SessionManager

namespace Ovi
open Programs SessionManager

section Answers

variable {config : SessionConfig}

def unstarted (config : SessionConfig) : SessionObject := ⟨.idle,config,false,none⟩

def Gives (c : OviCall) (config : SessionConfig) (P : SessionConfig → Prop) : Prop :=
  (c.invoke (some (unstarted config))).1 = .ok oviErrorNone →
    ∃ config', (c.invoke (some (unstarted config))).2 = some (unstarted config') ∧ P config'

def Gained (P : SessionConfig → Prop) (reply : SessionReply) : Prop :=
  (caught reply).1 = .ok oviErrorNone → ∃ config', reply.2 = unstarted config' ∧ P config'

variable {P : SessionConfig → Prop} {reply : SessionReply} {error : ErrorCode}

theorem Gained.gives {c : OviCall} (h : Gained P reply)
    (hinvoke : c.invoke (some (unstarted config)) = caught reply) : Gives c config P := by
  intro hok
  rw [hinvoke] at hok ⊢
  obtain ⟨config',hreply,hP⟩ := h hok
  exact ⟨config',(caught_session reply).trans (congrArg some hreply),hP⟩

theorem gained_raise {s : SessionObject} (h : error ≠ oviErrorNone) : Gained P (s.raise error) :=
  fun he => absurd (Except.ok.inj he) h

theorem gained_guard {s : SessionObject} {p : Prop} [Decidable p] (h : error ≠ oviErrorNone)
    (hreply : ¬ p → Gained P reply) : Gained P (if p then s.raise error else reply) := by
  split
  · exact gained_raise h
  · exact hreply ‹_›

theorem gained_set {config' : SessionConfig} (h : P config') :
    Gained P ((unstarted config).set config') := fun _ => ⟨config',rfl,h⟩

theorem setErrorCb_gives (callback userData : Nat) :
    Gives (.setErrorCb (some callback) userData) config
      (· = { config with errorCb := some ⟨callback,userData⟩ }) := fun _ => ⟨_,rfl,rfl⟩

theorem setProgressCb_gives (callback userData : Nat) :
    Gives (.setProgressCb (some callback) userData) config
      (· = { config with progressCb := some ⟨callback,userData⟩ }) := fun _ => ⟨_,rfl,rfl⟩

theorem setStateChangedCb_gives (callback userData : Nat) :
    Gives (.setStateChangedCb (some callback) userData) config
      (· = { config with stateChangedCb := some ⟨callback,userData⟩ }) := fun _ => ⟨_,rfl,rfl⟩

theorem setSkipVideoFrames_gives (skipFrames : Nat) :
    Gives (.setSkipVideoFrames skipFrames) config (· = { config with skipFrames := skipFrames }) :=
  fun _ => ⟨_,rfl,rfl⟩

theorem setMediaPath_gives (mediaPath : String) (canonical : Canonical) :
    Gives (.setMediaPath (some mediaPath) canonical) config
      (· = { config with mediaPath := canonical.string }) := by
  refine Gained.gives ?_ (Eq.refl (caught ((unstarted config).setMediaPath mediaPath canonical)))
  exact gained_guard (by decide) fun _ => gained_guard (by decide) fun _ =>
    gained_guard (by decide) fun _ => gained_guard (by decide) fun _ => gained_set rfl

theorem addPlugin_gives {name : String} {sNum : Nat} {loaded : Except Exn LoadedPlugin}
    (hload : loaded ≠ .error (.ovi oviErrorNone)) :
    Gives (.addPlugin (some name) sNum loaded) config
      (fun config' => ∃ p, loaded = .ok p ∧ config' = config.withPlugin sNum name p) := by
  refine Gained.gives ?_ (Eq.refl (caught ((unstarted config).appendPlugin name sNum loaded)))
  refine gained_guard (by decide) fun _ => gained_guard (by decide) fun _ => ?_
  cases loaded with
  | ok p => exact gained_set ⟨p,rfl,rfl⟩
  | error e =>
    cases e with
    | other => exact fun h => by cases h
    | ovi error => exact gained_raise fun he => hload (he ▸ rfl)

theorem setRender_gives (uid outputPath : String) :
    Gives (.setRender (some uid) (some outputPath)) config
      (fun config' => ∃ h, config' = config.withRender uid outputPath h) := by
  refine Gained.gives ?_ (Eq.refl (caught ((unstarted config).setRender uid outputPath)))
  refine gained_guard (by decide) fun _ => gained_guard (by decide) fun _ =>
    gained_guard (by decide) fun _ => ?_
  split
  · exact gained_raise (by decide)
  · split
    · exact gained_set ⟨_,rfl⟩
    · exact gained_raise (by decide)

theorem setPluginAttribute_gives (uid key value : String) :
    Gives (.setPluginAttribute (some uid) [key,value]) config
      (· = config.withAttrs uid ((∅ : AttrMap).insertIfNew key value)) := by
  refine Gained.gives ?_ (Eq.refl (caught ((unstarted config).setPluginAttrs uid _)))
  exact gained_guard (by decide) fun _ => gained_guard (by decide) fun _ =>
    gained_guard (by decide) fun _ => gained_set rfl

theorem linkPluginsWithList_gives (request : List String) :
    Gives (.linkPluginsWithList (request.map some)) config
      (fun config' => ∃ A h, LogicAnalyzer.make request = some A ∧
        config' = config.withLogic A h) := by
  cases request with
  | nil => exact fun h => by cases h
  | cons item items =>
    have hitems : ∀ items : List String, (items.map some).mapM id = some items := by
      intro items
      induction items with
      | nil => rfl
      | cons item items ih =>
        rw [List.map_cons,List.mapM_cons,ih]
        rfl
    have hinvoke : (OviCall.linkPluginsWithList ((item :: items).map some)).invoke
        (some (unstarted config)) = caught ((unstarted config).registerPlugin (item :: items)) := by
      rw [OviCall.invoke,oviSessionLinkPluginsWithList,withSession,if_neg (by simp)]
      simp only [hitems (item :: items)]
    refine Gained.gives ?_ hinvoke
    refine gained_guard (by decide) fun _ => gained_guard (by decide) fun _ => ?_
    split
    · split
      · exact fun h => by cases h
      · exact gained_set ⟨_,_,‹_›,rfl⟩
    · exact gained_raise (by decide)

end Answers

section Loading

variable {host : ToolHost} {c c' c'' : SessionConfig} {num : Nat} {run : ToolRun}
  {plugin : PluginInfo}

def UidsBelow (c : SessionConfig) (num : Nat) : Prop :=
  ∀ uid, (c.plugins.find uid).isSome = true → ∃ name, ∃ k ≤ num, uid = makeId name k

structure Extends (c c' : SessionConfig) : Prop where
  mediaPath : c'.mediaPath = c.mediaPath
  render : c'.renderUid = c.renderUid ∧ c'.outputFilePath = c.outputFilePath
  skipFrames : c'.skipFrames = c.skipFrames
  plugins : ∀ uid, (c.plugins.find uid).isSome = true →
    c'.plugins.find uid = c.plugins.find uid ∧ c'.plugins.data uid = c.plugins.data uid

theorem Extends.refl (c : SessionConfig) : Extends c c := ⟨rfl,⟨rfl,rfl⟩,rfl,fun _ _ => ⟨rfl,rfl⟩⟩

theorem Extends.trans (h : Extends c c') (h' : Extends c' c'') : Extends c c'' := by
  refine ⟨h'.mediaPath.trans h.mediaPath,
    ⟨h'.render.1.trans h.render.1,h'.render.2.trans h.render.2⟩,
    h'.skipFrames.trans h.skipFrames,fun uid huid => ?_⟩
  obtain ⟨hfind,hdata⟩ := h.plugins uid huid
  obtain ⟨hfind',hdata'⟩ := h'.plugins uid (hfind ▸ huid)
  exact ⟨hfind'.trans hfind,hdata'.trans hdata⟩

structure Loaded (host : ToolHost) (c : SessionConfig) (uid : String) (plugin : PluginInfo) :
    Prop where
  found : ∃ p, host.load plugin.name = .ok p ∧ c.plugins.find uid = some p.plugin
  attrs : ∀ key : String, (c.plugins.data uid).attrs[key]? = plugin.attrs[key]?

theorem Loaded.extends {uid : String} (h : Loaded host c uid plugin) (he : Extends c c') :
    Loaded host c' uid plugin := by
  obtain ⟨p,hload,hfind⟩ := h.found
  obtain ⟨hfind',hdata⟩ := he.plugins uid (by rw [hfind]; rfl)
  exact ⟨⟨p,hload,hfind'.trans hfind⟩,fun key => hdata ▸ h.attrs key⟩

theorem fresh_uid (h : UidsBelow c num) (name : String) :
    c.plugins.find (makeId name (num + 1)) = none := by
  by_contra hne
  obtain ⟨name',k,hk,he⟩ := h _ (Option.isSome_iff_ne_none.mpr hne)
  have := makeId_inj he
  omega

theorem withPlugin_plugins (h : UidsBelow c num) (name : String) (p : LoadedPlugin) (uid : String) :
    (c.withPlugin num name p).plugins.find uid =
        (if uid = makeId name (num + 1) then some p.plugin else c.plugins.find uid) ∧
      (c.withPlugin num name p).plugins.data uid =
        if uid = makeId name (num + 1) then ⟨p.metaForm,∅,p.effectMetaForm⟩
        else c.plugins.data uid := by
  have hfresh := fresh_uid h name
  have hexist : c.plugins.exist (makeId name (num + 1)) = false := by
    rw [← PluginManager.find_isSome,hfresh]
    rfl
  simp only [SessionConfig.withPlugin,SessionPlugins.loadPlugin,hexist,Bool.false_eq_true,if_false]
  exact ⟨find_load _ num name uid p.plugin hfresh,by rw [Function.update_apply]⟩

theorem withPlugin_extends (h : UidsBelow c num) (name : String) (p : LoadedPlugin) :
    Extends c (c.withPlugin num name p) := by
  refine ⟨rfl,⟨rfl,rfl⟩,rfl,fun uid huid => ?_⟩
  have hne : uid ≠ makeId name (num + 1) := by
    rintro rfl
    rw [fresh_uid h name] at huid
    cases huid
  obtain ⟨hfind,hdata⟩ := withPlugin_plugins h name p uid
  exact ⟨hfind.trans (if_neg hne),hdata.trans (if_neg hne)⟩

theorem withPlugin_below (h : UidsBelow c num) (name : String) (p : LoadedPlugin) :
    UidsBelow (c.withPlugin num name p) (num + 1) := by
  intro uid huid
  rw [(withPlugin_plugins h name p uid).1] at huid
  split at huid
  · exact ⟨name,num + 1,Nat.le_refl _,‹_›⟩
  · obtain ⟨name',k,hk,he⟩ := h uid huid
    exact ⟨name',k,hk.trans (Nat.le_succ num),he⟩

theorem withAttrs_own (c : SessionConfig) (uid key value : String) :
    ((c.withAttrs uid ((∅ : AttrMap).insertIfNew key value)).plugins.data uid).attrs =
      (c.plugins.data uid).attrs.insert key value := by
  have hsingle : ((∅ : AttrMap).insertIfNew key value).toList = [(key,value)] := rfl
  simp only [SessionConfig.withAttrs,SessionPlugins.assignAttrs,Function.update_self]
  rw [Std.TreeMap.foldl_eq_foldl_toList,hsingle]
  rfl

theorem withAttrs_other (c : SessionConfig) {uid uid' : String} (h : uid' ≠ uid)
    (attrs : AttrMap) : (c.withAttrs uid attrs).plugins.data uid' = c.plugins.data uid' :=
  Function.update_of_ne h _ _

structure Prepared (run : ToolRun) (c : SessionConfig) : Prop where
  session : run.session = some (unstarted c)
  below : UidsBelow c run.sNum

theorem wp_gives {call : OviCall} {what : String} {P : SessionConfig → Prop}
    (h : Prepared run c) (hgives : Gives call c P) :
    wp (perform call what) (fun _ run' => run'.sNum = run.sNum ∧
      ∃ c', run'.session = some (unstarted c') ∧ P c') (fun _ _ => True) run := by
  refine wp_perform (fun hok => ⟨rfl,?_⟩) (fun _ _ _ => trivial)
  rw [h.session] at hok
  obtain ⟨c',hsession,hP⟩ := hgives hok
  refine ⟨c',?_,hP⟩
  rw [answered,h.session]
  exact hsession

theorem addPlugin_holds (h : Prepared run c) (name : String) :
    wp (addPlugin host name) (fun uid run' => uid = makeId name (run.sNum + 1) ∧
      run'.sNum = run.sNum + 1 ∧ ∃ p, host.load name = .ok p ∧
        Prepared run' (c.withPlugin run.sNum name p)) (fun _ _ => True) run := by
  refine wp_bind.mpr (wp_get.mpr (wp_bind.mpr ?_))
  refine wp_mono (wp_gives h (addPlugin_gives (host.loadError name))) ?_ (fun _ _ he => he)
  rintro _ run' ⟨hnum,c',hsession,p,hload,rfl⟩
  refine ⟨rfl,congrArg (· + 1) hnum,p,hload,hsession,?_⟩
  have hbelow := withPlugin_below h.below name p
  rwa [← hnum] at hbelow ⊢

theorem setAttribute_holds {uid key value : String} (h : Prepared run c) :
    wp (setAttribute uid (key,value)) (fun _ run' => run'.sNum = run.sNum ∧
      Prepared run' (c.withAttrs uid ((∅ : AttrMap).insertIfNew key value)))
      (fun _ _ => True) run := by
  refine wp_mono (wp_gives h (setPluginAttribute_gives uid key value)) ?_ (fun _ _ he => he)
  rintro _ run' ⟨hnum,c',hsession,rfl⟩
  exact ⟨hnum,hsession,hnum ▸ h.below⟩

structure Attributed (host : ToolHost) (c : SessionConfig) (num : Nat) (plugin : PluginInfo)
    (done : List (String × String)) (run : ToolRun) : Prop where
  number : run.sNum = num + 1
  holds : ∃ c' p, Prepared run c' ∧ Extends c c' ∧ host.load plugin.name = .ok p ∧
    c'.plugins.find (makeId plugin.name (num + 1)) = some p.plugin ∧
    (c'.plugins.data (makeId plugin.name (num + 1))).attrs = done.foldl CmdParser.enter ∅

theorem attributes_kept (hc : UidsBelow c num) {done : List (String × String)}
    (entry : String × String) (h : Attributed host c num plugin done run) :
    wp (setAttribute (makeId plugin.name (num + 1)) entry)
      (fun _ => Attributed host c num plugin (done ++ [entry])) (fun _ _ => True) run := by
  obtain ⟨c',p,hholding,hextends,hload,hfind,hattrs⟩ := h.holds
  refine wp_mono (setAttribute_holds hholding) ?_ (fun _ _ he => he)
  rintro _ run' ⟨hnum,hholding'⟩
  refine ⟨hnum.trans h.number,_,p,hholding',?_,hload,hfind,?_⟩
  · refine ⟨hextends.mediaPath,hextends.render,hextends.skipFrames,fun uid huid => ?_⟩
    have hne : uid ≠ makeId plugin.name (num + 1) := by
      rintro rfl
      rw [fresh_uid hc] at huid
      cases huid
    obtain ⟨hfind',hdata⟩ := hextends.plugins uid huid
    exact ⟨hfind',(withAttrs_other c' hne _).trans hdata⟩
  · rw [withAttrs_own,hattrs,List.foldl_append]
    rfl

def itemOf (num : Nat) (plugin : PluginInfo) : String × Nat :=
  match operatorMap.lookup plugin.name with
  | some operator => (operator,num)
  | none => (makeId plugin.name (num + 1),num + 1)

structure Added (host : ToolHost) (c : SessionConfig) (num : Nat) (plugin : PluginInfo)
    (item : String) (run : ToolRun) : Prop where
  number : (item,run.sNum) = itemOf num plugin
  holds : ∃ c', Prepared run c' ∧ Extends c c' ∧
    (operatorMap.lookup plugin.name = none → Loaded host c' item plugin)

theorem addLinked_added (h : Prepared run c) (plugin : PluginInfo) :
    wp (addLinked host plugin) (Added host c run.sNum plugin) (fun _ _ => True) run := by
  rw [addLinked]
  cases hlookup : operatorMap.lookup plugin.name with
  | some operator =>
    refine ⟨?_,c,h,.refl c,fun hnone => ?_⟩
    · rw [itemOf,hlookup]
    · cases hlookup.symm.trans hnone
  | none =>
    refine wp_bind.mpr (wp_mono (addPlugin_holds h plugin.name) ?_ (fun _ _ he => he))
    rintro _ run' ⟨rfl,hnum,p,hload,hholding⟩
    obtain ⟨hfind,hdata⟩ := withPlugin_plugins h.below plugin.name p (makeId plugin.name _)
    have hstart : Attributed host c run.sNum plugin [] run' :=
      ⟨hnum,_,p,hholding,withPlugin_extends h.below plugin.name p,hload,hfind.trans (if_pos rfl),
        congrArg PluginData.attrs (hdata.trans (if_pos rfl))⟩
    refine wp_bind.mpr (wp_mono (wp_forM (Attributed host c run.sNum plugin)
      (fun done entry run'' _ => attributes_kept h.below entry) hstart) ?_ (fun _ _ he => he))
    intro _ run'' hdone
    obtain ⟨c',p',hholding',hextends,hload',hfind',hattrs⟩ := hdone.holds
    refine ⟨?_,c',hholding',hextends,fun _ => ⟨⟨p',hload',hfind'⟩,fun key => ?_⟩⟩
    · rw [itemOf,hlookup]
      exact congrArg (Prod.mk _) hdone.number
    · rw [hattrs]
      exact CmdParser.enter_listed (List.Perm.refl _) key

def linkedItems (num : Nat) : List PluginInfo → List String
  | [] => []
  | plugin :: plugins => (itemOf num plugin).1 :: linkedItems (itemOf num plugin).2 plugins

def numberAfter (num : Nat) (plugins : List PluginInfo) : Nat :=
  plugins.foldl (fun num plugin => (itemOf num plugin).2) num

theorem linkedItems_snoc (num : Nat) (plugins : List PluginInfo) (plugin : PluginInfo) :
    linkedItems num (plugins ++ [plugin]) =
      linkedItems num plugins ++ [(itemOf (numberAfter num plugins) plugin).1] := by
  induction plugins generalizing num with
  | nil => rfl
  | cons first plugins ih => exact congrArg (List.cons _) (ih _)

theorem numberAfter_snoc (num : Nat) (plugins : List PluginInfo) (plugin : PluginInfo) :
    numberAfter num (plugins ++ [plugin]) = (itemOf (numberAfter num plugins) plugin).2 := by
  rw [numberAfter,List.foldl_append]
  rfl

structure Linked (host : ToolHost) (c : SessionConfig) (num : Nat)
    (done : List (PluginInfo × String)) (c' : SessionConfig) : Prop where
  kept : Extends c c'
  items : done.map Prod.snd = linkedItems num (done.map Prod.fst)
  loaded : ∀ entry ∈ done, operatorMap.lookup entry.1.name = none → Loaded host c' entry.2 entry.1

theorem addPlugins_linked (h : Prepared run c) (plugins : List PluginInfo) :
    wp (addPlugins host plugins) (fun items run' => items = linkedItems run.sNum plugins ∧
      ∃ c', Prepared run' c' ∧ Linked host c run.sNum (plugins.zip items) c') (fun _ _ => True)
      run := by
  let I : List (PluginInfo × String) → ToolRun → Prop := fun done run' =>
    run'.sNum = numberAfter run.sNum (done.map Prod.fst) ∧
      ∃ c', Prepared run' c' ∧ Linked host c run.sNum done c'
  have hstep : ∀ done plugin run', plugin ∈ plugins → I done run' →
      wp (addLinked host plugin) (fun item run'' => I (done ++ [(plugin,item)]) run'')
        (fun _ _ => True) run' := by
    rintro done plugin run' - ⟨hnum,c',hholding,hlinked⟩
    refine wp_mono (addLinked_added hholding plugin) ?_ (fun _ _ he => he)
    intro item run'' hadded
    obtain ⟨c'',hholding',hextends,hloaded⟩ := hadded.holds
    have hpair := hadded.number
    rw [hnum] at hpair
    refine ⟨?_,c'',hholding',hlinked.kept.trans hextends,?_,?_⟩
    · rw [List.map_append,List.map_singleton,numberAfter_snoc]
      exact congrArg Prod.snd hpair
    · rw [List.map_append,List.map_append,List.map_singleton,List.map_singleton,linkedItems_snoc,
        hlinked.items]
      exact congrArg (fun pair => _ ++ [pair]) (congrArg Prod.fst hpair)
    · rw [List.forall_mem_append,List.forall_mem_singleton]
      exact ⟨fun entry he hnone => (hlinked.loaded entry he hnone).extends hextends,hloaded⟩
  refine wp_mono (wp_mapM I hstep ⟨rfl,c,h,.refl c,rfl,List.forall_mem_nil _⟩) ?_
    (fun _ _ he => he)
  rintro items run' ⟨hlength,-,c',hholding,hlinked⟩
  refine ⟨?_,c',hholding,hlinked⟩
  have hitems := hlinked.items
  rwa [List.map_snd_zip hlength.le,List.map_fst_zip hlength.ge] at hitems

end Loading

section Setup

variable {host : ToolHost} {parser : ToolArgs} {c : SessionConfig} {run : ToolRun}

structure SetUp (host : ToolHost) (parser : ToolArgs) (sNum : Nat) (c : SessionConfig) : Prop where
  mediaPath : c.mediaPath = (host.canonical parser.inputPath).string
  renderUid : c.renderUid = makeId parser.render.name (sNum + 1)
  outputPath : parser.render.attrs["path"]? = some c.outputFilePath
  skipFrames : c.skipFrames = parser.skipVideoFrames.toNat
  request : c.logicAnalyzer.map LogicAnalyzer.expression =
    some (linkedItems (sNum + 1) parser.linkedPlugins)
  loaded : ∀ entry ∈ parser.linkedPlugins.zip (linkedItems (sNum + 1) parser.linkedPlugins),
    operatorMap.lookup entry.1.name = none → Loaded host c entry.2 entry.1

theorem outputPathOf_spec (attrs : AttrMap) :
    wp (outputPathOf attrs) (fun outputPath run' => run' = run ∧
      (outputPath = "" ∨ attrs["path"]? = some outputPath)) (fun _ _ => True) run := by
  have hloop : ∀ (entries : List (String × String)) (outputPath : String),
      (outputPath = "" ∨ attrs["path"]? = some outputPath) →
      (∀ entry ∈ entries, attrs[entry.1]? = some entry.2) →
      wp (entries.foldlM (fun _ entry =>
        if entry.1 != "path" then raise "Unsupported parameter" else pure entry.2) outputPath)
        (fun outputPath run' => run' = run ∧
          (outputPath = "" ∨ attrs["path"]? = some outputPath)) (fun _ _ => True) run := by
    intro entries
    induction entries with
    | nil => exact fun outputPath h _ => ⟨rfl,h⟩
    | cons entry entries ih =>
      intro outputPath _ hentries
      rw [List.foldlM_cons,wp_bind]
      by_cases hkey : entry.1 = "path"
      · rw [if_neg (by simpa using hkey),wp_pure]
        refine ih entry.2 (.inr ?_) (fun e he => hentries e (List.mem_cons_of_mem _ he))
        exact hkey ▸ hentries entry List.mem_cons_self
      · rw [if_pos (by simpa using hkey)]
        exact trivial
  exact hloop _ "" (.inl rfl) fun entry he => Std.TreeMap.mem_toList_iff_getElem?_eq_some.mp he

theorem raiseIf_spec (p : Bool) (what : String) :
    wp (raiseIf p what) (fun _ run' => run' = run ∧ p = false) (fun _ _ => True) run := by
  cases p with
  | true => exact trivial
  | false => exact ⟨rfl,rfl⟩

theorem setRender_holds (h : Prepared run c) (plugin : PluginInfo) :
    wp (setRender host plugin) (fun _ run' => run'.sNum = run.sNum + 1 ∧
      ∃ c', Prepared run' c' ∧ c'.mediaPath = c.mediaPath ∧ c'.skipFrames = c.skipFrames ∧
        c'.renderUid = makeId plugin.name (run.sNum + 1) ∧
        plugin.attrs["path"]? = some c'.outputFilePath) (fun _ _ => True) run := by
  refine wp_bind.mpr (wp_mono (raiseIf_spec _ _) ?_ (fun _ _ he => he))
  rintro _ _ ⟨rfl,-⟩
  refine wp_bind.mpr (wp_mono (outputPathOf_spec plugin.attrs) ?_ (fun _ _ he => he))
  rintro outputPath _ ⟨rfl,hpath⟩
  refine wp_bind.mpr (wp_mono (raiseIf_spec _ _) ?_ (fun _ _ he => he))
  rintro _ _ ⟨rfl,hempty⟩
  refine wp_bind.mpr (wp_mono (addPlugin_holds h plugin.name) ?_ (fun _ _ he => he))
  rintro _ run' ⟨rfl,hnum,p,hload,hholding⟩
  refine wp_mono (wp_gives hholding (setRender_gives _ outputPath)) ?_ (fun _ _ he => he)
  rintro _ run'' ⟨hnum',c',hsession,hfind,rfl⟩
  have hne : outputPath ≠ "" := fun he => by
    rw [he] at hempty
    cases hempty
  exact ⟨hnum'.trans hnum,_,⟨hsession,hnum' ▸ hholding.below⟩,rfl,rfl,rfl,hpath.resolve_left hne⟩

theorem wp_keeps {call : OviCall} {what : String} {c' : SessionConfig} (h : Prepared run c)
    (hgives : Gives call c (· = c')) (hplugins : c'.plugins = c.plugins) :
    wp (perform call what) (fun _ run' => run'.sNum = run.sNum ∧ Prepared run' c')
      (fun _ _ => True) run := by
  refine wp_mono (wp_gives h hgives) ?_ (fun _ _ he => he)
  rintro _ run' ⟨hnum,c'',hsession,rfl⟩
  refine ⟨hnum,hsession,?_⟩
  rw [hnum,UidsBelow,hplugins]
  exact h.below

theorem setSkipVideoFrames_holds (h : Prepared run c) (hskip : c.skipFrames = 0)
    (skipVideoFrames : Int) :
    wp (setSkipVideoFrames skipVideoFrames) (fun _ run' => run'.sNum = run.sNum ∧
      Prepared run' { c with skipFrames := skipVideoFrames.toNat }) (fun _ _ => True) run := by
  rw [setSkipVideoFrames]
  split
  · exact wp_keeps h (setSkipVideoFrames_gives _) rfl
  · have hnat : skipVideoFrames.toNat = 0 := Int.toNat_of_nonpos (not_lt.mp ‹_›)
    rw [hnat,← hskip]
    exact ⟨rfl,h⟩

theorem setup_links (host : ToolHost) (parser : ToolArgs) (sNum : Nat) :
    wp (setup host parser) (fun _ run => ∃ c, run.session = some (unstarted c) ∧
      SetUp host parser sNum c) (fun _ _ => True) ⟨none,sNum,[]⟩ := by
  have hcreated : Prepared ⟨some (unstarted .initial),sNum,[created]⟩ .initial := by
    refine ⟨rfl,fun uid huid => ?_⟩
    have hnone : SessionConfig.initial.plugins.find uid = none := Std.TreeMap.getElem?_emptyc
    rw [hnone] at huid
    cases huid
  rw [setup,wp_bind]
  change wp _ _ _ (⟨some (unstarted .initial),sNum,[created]⟩ : ToolRun)
  refine wp_bind.mpr (wp_mono (wp_keeps hcreated (setErrorCb_gives 0 0) rfl) ?_ (fun _ _ he => he))
  rintro _ run₁ ⟨hnum₁,h₁⟩
  refine wp_bind.mpr (wp_mono (wp_keeps h₁ (setProgressCb_gives 1 0) rfl) ?_ (fun _ _ he => he))
  rintro _ run₂ ⟨hnum₂,h₂⟩
  refine wp_bind.mpr (wp_mono (wp_keeps h₂ (setStateChangedCb_gives 2 0) rfl) ?_
    (fun _ _ he => he))
  rintro _ run₃ ⟨hnum₃,h₃⟩
  refine wp_bind.mpr (wp_mono (raiseIf_spec _ _) ?_ (fun _ _ he => he))
  rintro _ run₃ ⟨rfl,-⟩
  refine wp_bind.mpr (wp_mono (wp_keeps h₃ (setMediaPath_gives _ _) rfl) ?_ (fun _ _ he => he))
  rintro _ run₄ ⟨hnum₄,h₄⟩
  refine wp_bind.mpr (wp_mono (setRender_holds h₄ parser.render) ?_ (fun _ _ he => he))
  rintro _ run₅ ⟨hnum₅,c₅,h₅,hmedia,hskip,hrender,hpath⟩
  refine wp_bind.mpr (wp_mono (setSkipVideoFrames_holds h₅ hskip _) ?_ (fun _ _ he => he))
  rintro _ run₆ ⟨hnum₆,h₆⟩
  refine wp_bind.mpr (wp_mono (raiseIf_spec _ _) ?_ (fun _ _ he => he))
  rintro _ run₆ ⟨rfl,-⟩
  refine wp_bind.mpr (wp_mono (addPlugins_linked h₆ parser.linkedPlugins) ?_ (fun _ _ he => he))
  rintro _ run₇ ⟨rfl,c₇,h₇,hlinked⟩
  refine wp_mono (wp_gives h₇ (linkPluginsWithList_gives _)) ?_ (fun _ _ he => he)
  rintro _ run₈ ⟨-,c₈,hsession,A,haccepted,hmake,rfl⟩
  have hnum : run₆.sNum = sNum + 1 := by
    rw [hnum₆,hnum₅,hnum₄,hnum₃,hnum₂,hnum₁]
  have hrender₄ : run₄.sNum = sNum := by
    rw [hnum₄,hnum₃,hnum₂,hnum₁]
  rw [hnum] at hlinked hmake
  obtain ⟨hkept,-,hloaded⟩ := hlinked
  refine ⟨_,hsession,?_,?_,?_,?_,?_,?_⟩
  · exact hkept.mediaPath.trans hmedia
  · exact (hkept.render.1.trans hrender).trans (by rw [hrender₄])
  · rw [hpath]
    exact congrArg some hkept.render.2.symm
  · exact hkept.skipFrames
  · exact congrArg some (make_expression hmake)
  · intro entry he hnone
    have hentry := hloaded entry he hnone
    exact ⟨hentry.found,hentry.attrs⟩

end Setup

section Text

open CmdParser

structure LinkPiece where
  name : String
  entries : List (String × String)

namespace LinkPiece

def text (piece : LinkPiece) : String :=
  if piece.entries.isEmpty then piece.name else printPluginInfo piece.name piece.entries

structure Fine (piece : LinkPiece) : Prop where
  name : Clean piece.name
  entries : ∀ entry ∈ piece.entries, Clean entry.1 ∧ Clean entry.2
  keys : (piece.entries.map Prod.fst).Nodup
  apart : Tokens.Plain (fun c => c == ' ') piece.text.toList
  noNul : '\x00' ∉ piece.text.toList

def info (piece : LinkPiece) : PluginInfo := ⟨piece.name,piece.entries.foldl enter ∅⟩

theorem Fine.parsed {piece : LinkPiece} (h : piece.Fine) :
    parsePluginInfo piece.text = .ok piece.info := by
  have hnul := h.noNul
  rw [text] at hnul ⊢
  split at hnul
  · rename_i hempty
    have hnext := Tokens.next_plain (s := []) h.name.plugin rfl
    rw [List.append_nil] at hnext
    rw [if_pos hempty,parsePluginInfo,cString_of_noNul hnul,hnext]
    simp only [String.ofList_toList,List.tail_nil]
    rw [info,List.isEmpty_iff.mp hempty]
    rfl
  · rename_i hempty
    rw [if_neg hempty]
    exact parse_printed h.name h.entries hnul

end LinkPiece

def linkText (pieces : List LinkPiece) : String := " ".intercalate (pieces.map LinkPiece.text)

theorem parsePlugin_linkText {pieces : List LinkPiece} (h : ∀ piece ∈ pieces, piece.Fine) :
    parsePlugin (linkText pieces) = .ok (pieces.map LinkPiece.info) := by
  have htexts : ∀ text ∈ pieces.map LinkPiece.text,
      Tokens.Plain (fun c => c == ' ') text.toList ∧ '\x00' ∉ text.toList := by
    intro text ht
    obtain ⟨piece,hp,rfl⟩ := List.mem_map.mp ht
    exact ⟨(h piece hp).apart,(h piece hp).noNul⟩
  rw [linkText,parsePlugin_pieces htexts,List.mapM_map]
  exact Checks.mapM_ok fun piece hp => (h piece hp).parsed

def pieceItems (num : Nat) (pieces : List LinkPiece) : List String :=
  linkedItems num (pieces.map LinkPiece.info)

def Shown (host : ToolHost) (c : SessionConfig) (piece : LinkPiece) (uid : String) : Prop :=
  (∃ p, host.load piece.name = .ok p ∧ c.plugins.find uid = some p.plugin) ∧
    ∀ key value : String, (key,value) ∈ piece.entries →
      (c.plugins.data uid).attrs[key]? = some value

theorem linkText_set_up (host : ToolHost) (inputPath : String) (skipVideoFrames : Int)
    (render : PluginInfo) (sNum : Nat) (pieces : List LinkPiece)
    (h : ∀ piece ∈ pieces, piece.Fine) :
    ∃ plugins, parsePlugin (linkText pieces) = .ok plugins ∧
      let parser := ⟨inputPath,skipVideoFrames,render,plugins⟩
      wp (setup host parser) (fun _ run => ∃ c, run.session = some (unstarted c) ∧
        SetUp host parser sNum c ∧
        c.logicAnalyzer.map LogicAnalyzer.expression = some (pieceItems (sNum + 1) pieces) ∧
        ∀ entry ∈ pieces.zip (pieceItems (sNum + 1) pieces),
          operatorMap.lookup entry.1.name = none → Shown host c entry.1 entry.2)
        (fun _ _ => True) ⟨none,sNum,[]⟩ := by
  refine ⟨_,parsePlugin_linkText h,?_⟩
  refine wp_mono (setup_links host _ sNum) ?_ (fun _ _ he => he)
  rintro _ run ⟨c,hsession,hsetup⟩
  refine ⟨c,hsession,hsetup,hsetup.request,?_⟩
  rintro ⟨piece,uid⟩ hentry hnone
  have hinfo : (piece.info,uid) ∈ (pieces.map LinkPiece.info).zip
      (linkedItems (sNum + 1) (pieces.map LinkPiece.info)) := by
    rw [List.zip_map_left]
    exact List.mem_map.mpr ⟨(piece,uid),hentry,rfl⟩
  obtain ⟨hfound,hattrs⟩ := hsetup.loaded _ hinfo hnone
  refine ⟨hfound,fun key value hvalue => (hattrs key).trans ?_⟩
  exact enter_own (h piece (List.of_mem_zip hentry).1).keys hvalue

def detectors : ToolHost where
  canonical := fun _ => .path "/videos/input.mp4" (by decide)
  load := fun name => .ok ⟨⟨if name == "OTIORender" then .render else .videoDetect⟩,.rect,
    fun _ => .ok .any,fun _ => .ok (),fun _ => .ok ()⟩
  loadError := fun _ h => by cases h
  frameExtractor := fun _ => .ok ⟨true,true⟩
  thread := .ok ()
  waiting := .stopped [oviErrorNone,oviErrorNone]

def faceOrObject : List LinkPiece :=
  [⟨"FaceDetect",[]⟩,⟨"|",[]⟩,⟨"ObjectDetect",[("label","person"),("score","0.7")]⟩]

theorem faceOrObject_fine : ∀ piece ∈ faceOrObject, piece.Fine := by
  simp only [faceOrObject,List.forall_mem_cons]
  refine ⟨?_,?_,?_,List.forall_mem_nil _⟩
  all_goals exact ⟨by decide,by decide,by decide,by decide,by decide⟩

theorem linkText_set_up_faceOrObject :
    ∃ plugins, parsePlugin "FaceDetect | ObjectDetect(label=person,score=0.7)" = .ok plugins ∧
      let parser := ⟨"input.mp4",2,⟨"OTIORender",{("path","out.otio")}⟩,plugins⟩
      wp (setup detectors parser) (fun _ run => ∃ c, run.session = some (unstarted c) ∧
        SetUp detectors parser 0 c ∧ c.logicAnalyzer.map LogicAnalyzer.expression =
          some ["FaceDetect.2","|","ObjectDetect.3"] ∧
        ∀ entry ∈ faceOrObject.zip ["FaceDetect.2","|","ObjectDetect.3"],
          operatorMap.lookup entry.1.name = none → Shown detectors c entry.1 entry.2)
        (fun _ _ => True) ⟨none,0,[]⟩ :=
  linkText_set_up detectors "input.mp4" 2 ⟨"OTIORender",{("path","out.otio")}⟩ 0 faceOrObject
    faceOrObject_fine

example : (match setup detectors ⟨"input.mp4",2,⟨"OTIORender",{("path","out.otio")}⟩,
    faceOrObject.map LinkPiece.info⟩ ⟨none,0,[]⟩ with
    | .ok .. => true
    | .error .. => false) = true := by decide +kernel

end Text

end Ovi
