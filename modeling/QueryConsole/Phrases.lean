/-
# Texts of the screen

Every text that the screen shows in words, in the two languages of the console.  A text with a gap
is a function of what fills it.

Models the texts of the locales `en` and `pt-BR`.
-/

import QueryConsole.Locale

namespace QueryConsole

/-- The texts of one language. -/
structure Phrases where
  -- header and panels
  appTitle : String
  questionTitle : String
  questionPlaceholder : String
  resultsTitle : String
  errorTitle : String
  schemaTitle : String
  suggestionsTitle : String
  generatedQuery : String
  defaultDatabase : String
  ask : String
  newline : String
  panel : String
  help : String
  -- results
  noQueryYet : String
  typeQuestionHint : String
  toAsk : String
  loadingQuery : String
  noResultsFound : String
  notAvailable : String
  executionTime : String
  rowCount : String
  confidence : String
  intent : String
  -- schema
  schemaLoading : String
  schemaFailed : String
  schemaEmpty : String
  -- failures
  connectionFailed : String
  databasesFailed : String
  -- status bar
  statusHint : String
  copied : String → String
  copiedQuery : String
  clipboardFailed : String → String
  noQueryToCopy : String
  noResultsToExport : String
  exportedRows : String → String → String
  exportFailed : String → String
  -- help
  helpTitle : String
  helpSectionGlobal : String
  helpSectionResults : String
  helpSectionSchema : String
  helpSectionSuggestions : String
  helpSubmit : String
  helpNewline : String
  helpClear : String
  helpNextPanel : String
  helpSuggestion : String
  helpRefresh : String
  helpToggle : String
  helpQuit : String
  helpNavigate : String
  helpCopyCell : String
  helpCopyQuery : String
  helpExportCsv : String
  helpExportJson : String
  helpToggleTable : String
  helpSwitchDatabase : String
  helpRunSuggestion : String

namespace Phrases

/-- The English texts. -/
def english : Phrases where
  appTitle := "NL Query Console"
  questionTitle := "Question"
  questionPlaceholder := "Ask a question about your data..."
  resultsTitle := "Results"
  errorTitle := "Error"
  schemaTitle := "Schema"
  suggestionsTitle := "Suggestions"
  generatedQuery := "Generated Query"
  defaultDatabase := "(default database)"
  ask := "ask"
  newline := "new line"
  panel := "panel"
  help := "help"
  noQueryYet := "No query yet"
  typeQuestionHint := "Type a question and press "
  toAsk := " to ask"
  loadingQuery := "Generating and running query..."
  noResultsFound := "No results found."
  notAvailable := "N/A"
  executionTime := "Time"
  rowCount := "Rows"
  confidence := "Confidence"
  intent := "Intent"
  schemaLoading := "Loading schema..."
  schemaFailed := "Failed to load schema"
  schemaEmpty := "No tables found"
  connectionFailed := "Failed to connect to the server. Is it running?"
  databasesFailed := "Failed to load database list"
  statusHint := "Ask a question in plain language. F1 for help"
  copied := fun text => "Copied: " ++ text
  copiedQuery := "Generated query copied to clipboard"
  clipboardFailed := fun error => "Clipboard unavailable: " ++ error
  noQueryToCopy := "No generated query to copy"
  noResultsToExport := "No results to export"
  exportedRows := fun count filename => "Exported " ++ count ++ " rows to " ++ filename
  exportFailed := fun error => "Export failed: " ++ error
  helpTitle := "Help"
  helpSectionGlobal := "GLOBAL"
  helpSectionResults := "RESULTS"
  helpSectionSchema := "SCHEMA"
  helpSectionSuggestions := "SUGGESTIONS"
  helpSubmit := "Ask the question"
  helpNewline := "Insert a new line"
  helpClear := "Clear the question"
  helpNextPanel := "Next panel"
  helpSuggestion := "Ask a suggestion"
  helpRefresh := "Reload schema"
  helpToggle := "Toggle this help"
  helpQuit := "Quit"
  helpNavigate := "Move selection"
  helpCopyCell := "Copy cell"
  helpCopyQuery := "Copy generated query"
  helpExportCsv := "Export to CSV"
  helpExportJson := "Export to JSON"
  helpToggleTable := "Expand or collapse table"
  helpSwitchDatabase := "Switch database"
  helpRunSuggestion := "Ask the selected suggestion"

/-- The Brazilian Portuguese texts. -/
def portuguese : Phrases where
  appTitle := "Console de Consultas"
  questionTitle := "Pergunta"
  questionPlaceholder := "Faça uma pergunta sobre seus dados..."
  resultsTitle := "Resultados"
  errorTitle := "Erro"
  schemaTitle := "Schema"
  suggestionsTitle := "Sugestões"
  generatedQuery := "Query Gerada"
  defaultDatabase := "(banco padrão)"
  ask := "perguntar"
  newline := "nova linha"
  panel := "painel"
  help := "ajuda"
  noQueryYet := "Nenhuma consulta ainda"
  typeQuestionHint := "Digite uma pergunta e pressione "
  toAsk := " para perguntar"
  loadingQuery := "Gerando e executando a query..."
  noResultsFound := "Nenhum resultado encontrado."
  notAvailable := "N/D"
  executionTime := "Tempo"
  rowCount := "Linhas"
  confidence := "Confiança"
  intent := "Intenção"
  schemaLoading := "Carregando schema..."
  schemaFailed := "Falha ao carregar o schema"
  schemaEmpty := "Nenhuma tabela encontrada"
  connectionFailed := "Falha ao conectar ao servidor. Ele está rodando?"
  databasesFailed := "Falha ao carregar a lista de bancos"
  statusHint := "Pergunte em linguagem natural. F1 para ajuda"
  copied := fun text => "Copiado: " ++ text
  copiedQuery := "Query gerada copiada para a área de transferência"
  clipboardFailed := fun error => "Área de transferência indisponível: " ++ error
  noQueryToCopy := "Nenhuma query gerada para copiar"
  noResultsToExport := "Nenhum resultado para exportar"
  exportedRows := fun count filename => count ++ " linhas exportadas para " ++ filename
  exportFailed := fun error => "Falha na exportação: " ++ error
  helpTitle := "Ajuda"
  helpSectionGlobal := "GLOBAL"
  helpSectionResults := "RESULTADOS"
  helpSectionSchema := "SCHEMA"
  helpSectionSuggestions := "SUGESTÕES"
  helpSubmit := "Enviar a pergunta"
  helpNewline := "Inserir nova linha"
  helpClear := "Limpar a pergunta"
  helpNextPanel := "Próximo painel"
  helpSuggestion := "Perguntar uma sugestão"
  helpRefresh := "Recarregar schema"
  helpToggle := "Mostrar/ocultar ajuda"
  helpQuit := "Sair"
  helpNavigate := "Mover seleção"
  helpCopyCell := "Copiar célula"
  helpCopyQuery := "Copiar query gerada"
  helpExportCsv := "Exportar para CSV"
  helpExportJson := "Exportar para JSON"
  helpToggleTable := "Expandir ou recolher tabela"
  helpSwitchDatabase := "Trocar banco"
  helpRunSuggestion := "Perguntar a sugestão selecionada"

/-- The texts of a locale. -/
def of : Locale → Phrases
  | .english => english
  | .portuguese => portuguese

end Phrases
end QueryConsole
