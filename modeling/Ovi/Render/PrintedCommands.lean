import Ovi.Render.EffectTexts
import Ovi.Render.PrintedNumbers

namespace Ovi
open CmdGenerator EffectCommand

section Conveyed

end Conveyed

end Ovi
