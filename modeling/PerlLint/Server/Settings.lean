import PerlLint.Server.Basic

/-!
# The configuration in force

There are three layers: the standard configuration, the configuration file of the
workspace, and the settings of the client.  `reload` builds the configuration from
the file as it is now and the settings sent last.  A file that cannot be used
counts as none.  Settings that cannot be used leave the configuration as it was.

Three events reload: the start of a session, settings from the client, and a change
of a file that ends in the name of a configuration file.  Settings that are null
are no settings.
-/

namespace PerlLint.Server

open Host

/-- The configuration of the workspace's file, or the standard one. -/
def baseConfig (fs : Files) (here : Location) (root : Option String) : Config :=
  match root.bind fun dir => Config.discover? fs here dir with
  | none => .standard
  | some path => (Config.ofFile fs here path).toOption.getD .standard

/-- The configuration that a base and settings make, if the settings can be used. -/
def layered? (base : Config) (settings : Option Json) : Option Config :=
  match settings with
  | none => some base
  | some v => (base.merge v).toOption

/-- Builds the configuration again. -/
def reload (fs : Files) (here : Location) (s : Server) : Server :=
  match layered? (baseConfig fs here s.root) s.clientSettings with
  | some config => { s with config }
  | none => s

/-- Takes settings from the client. -/
def applySettings (fs : Files) (here : Location) (settings : Json) (s : Server) : Server :=
  match settings with
  | .null => s
  | v => reload fs here { s with clientSettings := some v }

/-- Starts a session.  A workspace without a path does not count. -/
def startSession (fs : Files) (here : Location) (root : Option Uri) (options : Option Json)
    (s : Server) : Server :=
  let s := match root.bind Uri.filePath? with
    | some path => { s with root := some path }
    | none => s
  applySettings fs here (options.getD .null) (reload fs here s)

/-- Whether a path ends in the name of a configuration file. -/
def namesConfigFile (u : Uri) : Bool :=
  Config.fileNames.any fun name => name.toList.isSuffixOf u.path.toList

/-- Takes notice of changed files. -/
def filesChanged (fs : Files) (here : Location) (changed : List Uri) (s : Server) : Server :=
  if changed.any namesConfigFile then reload fs here s else s

/-! ## What does not change -/

/-- Only the configuration is built again. -/
theorem reload_frame (fs : Files) (here : Location) (s : Server) :
    reload fs here s = { s with config := (reload fs here s).config } := by
  unfold reload
  split <;> rfl

/-- Settings change the configuration, and which settings were sent last. -/
theorem applySettings_frame (fs : Files) (here : Location) (v : Json) (s : Server) :
    applySettings fs here v s =
      { s with
        config := (applySettings fs here v s).config
        clientSettings := (applySettings fs here v s).clientSettings } := by
  unfold applySettings
  split
  · rfl
  · rw [reload_frame]

/-- The start of a session also sets the directory of the workspace. -/
theorem startSession_frame (fs : Files) (here : Location) (root : Option Uri)
    (options : Option Json) (s : Server) :
    startSession fs here root options s =
      { s with
        config := (startSession fs here root options s).config
        clientSettings := (startSession fs here root options s).clientSettings
        root := (startSession fs here root options s).root } := by
  rw [startSession, applySettings_frame, reload_frame]
  split <;> rfl

theorem filesChanged_frame (fs : Files) (here : Location) (changed : List Uri) (s : Server) :
    filesChanged fs here changed s
      = { s with config := (filesChanged fs here changed s).config } := by
  unfold filesChanged
  split
  · exact reload_frame fs here s
  · rfl

@[simp] theorem reload_clientSettings (fs : Files) (here : Location) (s : Server) :
    (reload fs here s).clientSettings = s.clientSettings := by
  rw [reload_frame]

@[simp] theorem reload_root (fs : Files) (here : Location) (s : Server) :
    (reload fs here s).root = s.root := by
  rw [reload_frame]

@[simp] theorem applySettings_store (fs : Files) (here : Location) (v : Json) (s : Server) :
    (applySettings fs here v s).store = s.store := by
  rw [applySettings_frame]

@[simp] theorem startSession_store (fs : Files) (here : Location) (root : Option Uri)
    (options : Option Json) (s : Server) :
    (startSession fs here root options s).store = s.store := by
  rw [startSession_frame]

@[simp] theorem filesChanged_store (fs : Files) (here : Location) (changed : List Uri)
    (s : Server) : (filesChanged fs here changed s).store = s.store := by
  rw [filesChanged_frame]

@[simp] theorem startSession_warned (fs : Files) (here : Location) (root : Option Uri)
    (options : Option Json) (s : Server) :
    (startSession fs here root options s).warned = s.warned := by
  rw [startSession_frame]

@[simp] theorem applySettings_documents (fs : Files) (here : Location) (v : Json) (s : Server) :
    (applySettings fs here v s).documents = s.documents := by
  rw [applySettings_frame]

@[simp] theorem startSession_documents (fs : Files) (here : Location) (root : Option Uri)
    (options : Option Json) (s : Server) :
    (startSession fs here root options s).documents = s.documents := by
  rw [startSession_frame]

@[simp] theorem filesChanged_documents (fs : Files) (here : Location) (changed : List Uri)
    (s : Server) : (filesChanged fs here changed s).documents = s.documents := by
  rw [filesChanged_frame]

end PerlLint.Server
