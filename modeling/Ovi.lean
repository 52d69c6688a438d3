import Ovi.Logic.Verdict
import Ovi.Logic.NormalForm
import Ovi.Logic.Termination
import Ovi.Flow.Frame
import Ovi.Flow.Synchronisation
import Ovi.Flow.MultiFrame
import Ovi.Flow.Recording
import Ovi.Flow.Uncached
import Ovi.Flow.Independence
import Ovi.Flow.FirstFailure
import Ovi.Media.ReadFrame
import Ovi.Media.Decode
import Ovi.Media.FormatConverter
import Ovi.Python.PyManager
import Ovi.Range.RenderTask
import Ovi.Range.Metadata
import Ovi.Link.LinkChecks
import Ovi.Link.LinkRefinement
import Ovi.Render.EffectMetadata
import Ovi.Render.NumericAttributes
import Ovi.Render.FilterChains
import Ovi.Render.Concatenation
import Ovi.Session.Launch
import Ovi.Session.Start
import Ovi.Session.Stop
import Ovi.Session.Completion
import Ovi.Session.Dispatch
import Ovi.Flow.Inclusion
import Ovi.Render.AttributeVerdict
import Ovi.Render.RenderRun
import Ovi.Session.PluginUids
import Ovi.Session.Api
import Ovi.Tools.LinkText
import Ovi.Plugins.Enumeration
import Ovi.Plugins.Handles
import Ovi.Python.PyThreads
import Ovi.Render.WrittenFilm
import Ovi.Render.PrintedCommands
import Ovi.Render.EffectTimes
