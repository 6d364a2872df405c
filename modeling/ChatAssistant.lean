import ChatAssistant.Main
import ChatAssistant.Proofs.Expr.Recognition
import ChatAssistant.Proofs.Assistant.Bounds
import ChatAssistant.Proofs.Assistant.Provenance
import ChatAssistant.Proofs.BotApi.Replies
import ChatAssistant.Proofs.MediaWiki.Exchange
import ChatAssistant.Proofs.Routing
import ChatAssistant.Proofs.Supervisor.Memory
import ChatAssistant.Proofs.Supervisor.Mishaps
import ChatAssistant.Proofs.Supervisor.Shutdown
import ChatAssistant.Proofs.Expr.Screening
import ChatAssistant.Proofs.Expr.Printing
import ChatAssistant.Proofs.Question.Extraction
import ChatAssistant.Proofs.Console
import ChatAssistant.Proofs.Expr.Points
import ChatAssistant.Proofs.Question.Bare
import ChatAssistant.Proofs.Question.Announced
import ChatAssistant.Proofs.Number.Sign
import ChatAssistant.Proofs.Problem.Linear
import ChatAssistant.Proofs.Question.Spoken
import ChatAssistant.Proofs.Problem.PowerRoot
import ChatAssistant.Proofs.Problem.Trigonometry
import ChatAssistant.Proofs.Question.Fragment
import ChatAssistant.Proofs.Problem.Unsolved
import ChatAssistant.Proofs.Expr.Evaluation
import ChatAssistant.Proofs.Question.Digits
import ChatAssistant.Proofs.Text.Tidy
import ChatAssistant.Proofs.Text.Striking
import ChatAssistant.Proofs.Encyclopedia.Query
import ChatAssistant.Proofs.Encyclopedia.WholeWords
import ChatAssistant.Proofs.Encyclopedia.Leftovers
import ChatAssistant.Proofs.Config
import ChatAssistant.Proofs.BotApi.Progress
import ChatAssistant.Proofs.Problem.Finite
import ChatAssistant.Proofs.Question.Surroundings
import ChatAssistant.Proofs.MediaWiki.Parameters
import ChatAssistant.Proofs.MediaWiki.PageLink
import ChatAssistant.Proofs.MediaWiki.Pages
import ChatAssistant.Proofs.Assistant.Ceiling
import ChatAssistant.Proofs.Expr.Descent
import ChatAssistant.Proofs.Expr.Lexemes
import ChatAssistant.Proofs.Expr.Resources
